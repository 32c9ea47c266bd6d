import Mathlib
import CsgPreview.Scene.Instantiate
import CsgPreview.Proofs.Csg.Routing
import CsgPreview.Proofs.Pipeline.Quiescent

/-!
The scene tree of a design is an arena in pre-order.

Instantiation first builds the tree of nodes and then places it in an array: a node is pushed,
the subtrees of its children are placed after it one after the other, and the node is then given
the indices of its children and the end of its subtree. So the subtree of every built node sits in
one block of the array (`Built.LaidOut`): its node first, holding its own index, then the blocks of
its children in order, each starting where the one before ends, the last ending where the node's
block ends.

From that, the arena has the shape its readers rely on: every node holds its index; node 0 is the
top group and its subtree is the whole array; the children of a node start right after it and
follow one another to the end of its subtree; every node but the top has exactly one parent; and
whatever is reached from a node through children lies within its subtree. Instantiation only
makes primitives without children, so in the arena primitives are leaves.
-/

namespace CsgPreview.Scene

open Script Std.Do

set_option mvcgen.warning false

/-! ### Built trees and the blocks they take -/

mutual

def Built.size : Built → Nat
  | .node _ _ _ children => Built.sizeAll children + 1

def Built.sizeAll : List Built → Nat
  | [] => 0
  | b :: rest => b.size + Built.sizeAll rest

end

def Built.starts : List Built → Nat → List Nat
  | [], _ => []
  | b :: rest, start => start :: Built.starts rest (start + b.size)

mutual

/-- A built subtree sits in `nodes` from `start` on, in pre-order: its node at `start`, holding
its index, the starts of its children and the end of its block, and the children's subtrees after
it, one after the other. -/
def Built.LaidOut (nodes : Array SceneNode) : Built → Nat → Prop
  | .node kind marks pos children, start =>
    nodes[start]? = some ⟨start, kind, marks, Built.starts children (start + 1),
      start + Built.sizeAll children + 1, pos⟩ ∧ Built.LaidOutAll nodes children (start + 1)

/-- Built subtrees sit in `nodes` one after the other from `start` on. -/
def Built.LaidOutAll (nodes : Array SceneNode) : List Built → Nat → Prop
  | [], _ => True
  | b :: rest, start => b.LaidOut nodes start ∧ Built.LaidOutAll nodes rest (start + b.size)

end

@[simp] theorem Built.size_node (kind : NodeKind) (marks : Modifiers) (pos : Nat)
    (children : List Built) :
    (Built.node kind marks pos children).size = Built.sizeAll children + 1 := by
  simp [Built.size]

@[simp] theorem Built.sizeAll_nil : Built.sizeAll [] = 0 := by simp [Built.sizeAll]

@[simp] theorem Built.sizeAll_cons (b : Built) (rest : List Built) :
    Built.sizeAll (b :: rest) = b.size + Built.sizeAll rest := by
  simp [Built.sizeAll]

theorem Built.one_le_size (b : Built) : 1 ≤ b.size := by
  cases b
  simp

theorem Built.mem_starts {bs : List Built} {start s : Nat} (h : s ∈ Built.starts bs start) :
    start ≤ s ∧ s < start + Built.sizeAll bs := by
  induction bs generalizing start with
  | nil => simp [Built.starts] at h
  | cons b rest ih =>
    have := Built.one_le_size b
    simp only [Built.starts, List.mem_cons] at h
    rcases h with rfl | later
    · simp only [Built.sizeAll_cons]
      omega
    · have := ih later
      simp only [Built.sizeAll_cons]
      omega

/-! ### Placing a built tree -/

mutual

theorem Built.size_place : (b : Built) → (acc : Array SceneNode) →
    (b.place acc).size = acc.size + b.size
  | .node kind marks pos children, acc => by
    have placed := Built.size_placeAll children
      (acc.push ⟨acc.size, kind, marks, [], acc.size + 1, pos⟩) []
    simp only [Built.place, Array.size_modify, placed, Array.size_push, Built.size_node]
    omega

theorem Built.size_placeAll : (bs : List Built) → (acc : Array SceneNode) → (ids : List Nat) →
    (Built.placeAll bs acc ids).1.size = acc.size + Built.sizeAll bs
  | [], acc, ids => by simp [Built.placeAll]
  | b :: rest, acc, ids => by
    simp only [Built.placeAll, Built.size_placeAll rest, Built.size_place, Built.sizeAll_cons]
    omega

end

theorem Built.placeAll_ids (bs : List Built) (acc : Array SceneNode) (ids : List Nat) :
    (Built.placeAll bs acc ids).2 = (Built.starts bs acc.size).reverse ++ ids := by
  induction bs generalizing acc ids with
  | nil => simp [Built.placeAll, Built.starts]
  | cons b rest ih => simp [Built.placeAll, Built.starts, ih, Built.size_place]

mutual

theorem Built.place_prefix : (b : Built) → (acc : Array SceneNode) → ∀ j < acc.size,
    (b.place acc)[j]? = acc[j]?
  | .node kind marks pos children, acc, j, hj => by
    have placed := Built.placeAll_prefix children
      (acc.push ⟨acc.size, kind, marks, [], acc.size + 1, pos⟩) [] j (by simp; omega)
    simp only [Built.place, Array.getElem?_modify, placed, Array.getElem?_push_lt hj]
    simp [Nat.ne_of_gt hj]

theorem Built.placeAll_prefix : (bs : List Built) → (acc : Array SceneNode) → (ids : List Nat) →
    ∀ j < acc.size, (Built.placeAll bs acc ids).1[j]? = acc[j]?
  | [], acc, ids, j, _ => by simp [Built.placeAll]
  | b :: rest, acc, ids, j, hj => by
    have later := Built.placeAll_prefix rest (b.place acc) (acc.size :: ids) j
      (by rw [Built.size_place]; omega)
    simp only [Built.placeAll, later, Built.place_prefix b acc j hj]

end

mutual

theorem Built.LaidOut.congr : (b : Built) → {nodes nodes' : Array SceneNode} → {start : Nat} →
    b.LaidOut nodes start → (∀ j, start ≤ j → j < start + b.size → nodes'[j]? = nodes[j]?) →
    b.LaidOut nodes' start
  | .node kind marks pos children, nodes, nodes', start, laid, agree => by
    obtain ⟨top, below⟩ := laid
    refine ⟨?_, Built.LaidOutAll.congr children below fun j lo hi => agree j (by omega) (by simp; omega)⟩
    rw [agree start (Nat.le_refl _) (by simp)]
    exact top

theorem Built.LaidOutAll.congr : (bs : List Built) → {nodes nodes' : Array SceneNode} →
    {start : Nat} → Built.LaidOutAll nodes bs start →
    (∀ j, start ≤ j → j < start + Built.sizeAll bs → nodes'[j]? = nodes[j]?) →
    Built.LaidOutAll nodes' bs start
  | [], _, _, _, _, _ => trivial
  | b :: rest, _, _, _, laid, agree => by
    obtain ⟨first, others⟩ := laid
    exact ⟨Built.LaidOut.congr b first fun j lo hi => agree j lo (by simp; omega),
      Built.LaidOutAll.congr rest others fun j lo hi => agree j (by omega) (by simp; omega)⟩

end

mutual

theorem Built.laidOut_place : (b : Built) → (acc : Array SceneNode) → b.LaidOut (b.place acc) acc.size
  | .node kind marks pos children, acc => by
    -- the node is pushed, its children placed after it, and the node then finished
    have kids := Built.laidOutAll_placeAll children
      (acc.push ⟨acc.size, kind, marks, [], acc.size + 1, pos⟩) []
    have size := Built.size_placeAll children
      (acc.push ⟨acc.size, kind, marks, [], acc.size + 1, pos⟩) []
    have ids := Built.placeAll_ids children
      (acc.push ⟨acc.size, kind, marks, [], acc.size + 1, pos⟩) []
    have top := Built.placeAll_prefix children
      (acc.push ⟨acc.size, kind, marks, [], acc.size + 1, pos⟩) [] acc.size (by simp)
    simp only [Built.place]
    generalize Built.placeAll children (acc.push ⟨acc.size, kind, marks, [], acc.size + 1, pos⟩) [] =
      placed at kids size ids top
    obtain ⟨placedNodes, placedIds⟩ := placed
    simp only [Array.size_push, List.append_nil] at kids size ids top
    refine ⟨?_, Built.LaidOutAll.congr children kids fun j lo _ => ?_⟩
    · simp [Array.getElem?_modify, top, ids, size]
      omega
    · simp [Array.getElem?_modify, show acc.size ≠ j by omega]

theorem Built.laidOutAll_placeAll : (bs : List Built) → (acc : Array SceneNode) → (ids : List Nat) →
    Built.LaidOutAll (Built.placeAll bs acc ids).1 bs acc.size
  | [], _, _ => trivial
  | b :: rest, acc, ids => by
    -- the first subtree is laid out, and placing the others after it keeps it
    have first := Built.laidOut_place b acc
    have others := Built.laidOutAll_placeAll rest (b.place acc) (acc.size :: ids)
    rw [Built.size_place] at others
    refine ⟨Built.LaidOut.congr b first fun j _ hi => ?_, others⟩
    exact Built.placeAll_prefix rest _ _ j (by rw [Built.size_place]; omega)

end

/-! ### Primitives without children -/

mutual

/-- Every primitive of a built subtree has no children. -/
def Built.Bare : Built → Prop
  | .node kind _ _ children => (kind.isLeaf = true → children = []) ∧ Built.AllBare children

/-- Every primitive of built subtrees has no children. -/
def Built.AllBare : List Built → Prop
  | [] => True
  | b :: rest => b.Bare ∧ Built.AllBare rest

end

theorem Built.allBare_iff (bs : List Built) : Built.AllBare bs ↔ ∀ b ∈ bs, b.Bare := by
  induction bs with
  | nil => simp [Built.AllBare]
  | cons b rest ih => simp [Built.AllBare, ih]

/-! ### Every node heads a block -/

mutual

theorem Built.LaidOut.nodeAt : (b : Built) → {nodes : Array SceneNode} → {start i : Nat} →
    b.LaidOut nodes start → b.Bare → start ≤ i → i < start + b.size →
    ∃ c : Built, c.LaidOut nodes i ∧ c.Bare ∧ i + c.size ≤ start + b.size
  | .node kind marks pos children, nodes, start, i, laid, bare, lo, hi => by
    by_cases top : i = start
    · subst top
      exact ⟨_, laid, bare, Nat.le_refl _⟩
    · -- below the top, the index lies in the block of one of the children
      simp only [Built.size_node] at hi
      obtain ⟨c, laidC, bareC, within⟩ :=
        @Built.LaidOutAll.nodeAt children nodes (start + 1) i laid.2 bare.2 (by omega) (by omega)
      exact ⟨c, laidC, bareC, by simp only [Built.size_node]; omega⟩

theorem Built.LaidOutAll.nodeAt : (bs : List Built) → {nodes : Array SceneNode} →
    {start i : Nat} → Built.LaidOutAll nodes bs start → Built.AllBare bs → start ≤ i →
    i < start + Built.sizeAll bs →
    ∃ c : Built, c.LaidOut nodes i ∧ c.Bare ∧ i + c.size ≤ start + Built.sizeAll bs
  | [], _, _, _, _, _, lo, hi => by simp at hi; omega
  | b :: rest, nodes, start, i, laid, bare, lo, hi => by
    simp only [Built.sizeAll_cons] at hi ⊢
    by_cases first : i < start + b.size
    · obtain ⟨c, laidC, bareC, within⟩ := Built.LaidOut.nodeAt b laid.1 bare.1 lo first
      exact ⟨c, laidC, bareC, by omega⟩
    · obtain ⟨c, laidC, bareC, within⟩ :=
        @Built.LaidOutAll.nodeAt rest nodes (start + b.size) i laid.2 bare.2 (by omega) (by omega)
      exact ⟨c, laidC, bareC, by omega⟩

end

namespace SceneTree

/-- Children `cs` whose subtrees follow one another from `lo` and end at `hi`: the first starts at
`lo`, each next one where the subtree of the one before ends, and the last subtree ends at `hi`;
with no children, `lo` is `hi`. -/
def Chained (t : SceneTree) : Nat → Nat → List Nat → Prop
  | lo, hi, [] => lo = hi
  | lo, hi, c :: cs => c = lo ∧ t.Chained (t.node c).subtreeEnd hi cs

variable {t : SceneTree}

@[simp] theorem chained_nil {lo hi : Nat} : t.Chained lo hi [] ↔ lo = hi := Iff.rfl

@[simp] theorem chained_cons {lo hi c : Nat} {cs : List Nat} :
    t.Chained lo hi (c :: cs) ↔ c = lo ∧ t.Chained (t.node c).subtreeEnd hi cs := Iff.rfl

namespace Chained

variable {lo hi : Nat} {cs : List Nat}

theorem bounds (h : t.Chained lo hi cs) (grow : ∀ c ∈ cs, c < (t.node c).subtreeEnd) :
    lo ≤ hi ∧ ∀ c ∈ cs, lo ≤ c ∧ (t.node c).subtreeEnd ≤ hi := by
  induction cs generalizing lo with
  | nil => exact ⟨Nat.le_of_eq (chained_nil.1 h), by simp⟩
  | cons c rest ih =>
    obtain ⟨rfl, later⟩ := chained_cons.1 h
    have first := grow c List.mem_cons_self
    obtain ⟨le, inside⟩ := ih later fun c' mem => grow c' (List.mem_cons_of_mem c mem)
    refine ⟨by omega, fun c' mem => ?_⟩
    rcases List.mem_cons.1 mem with rfl | mem
    · omega
    · have := inside c' mem
      omega

theorem pairwise (h : t.Chained lo hi cs) (grow : ∀ c ∈ cs, c < (t.node c).subtreeEnd) :
    cs.Pairwise fun c d => (t.node c).subtreeEnd ≤ d := by
  induction cs generalizing lo with
  | nil => exact List.Pairwise.nil
  | cons c rest ih =>
    obtain ⟨rfl, later⟩ := chained_cons.1 h
    have grow' := fun c' mem => grow c' (List.mem_cons_of_mem c mem)
    exact List.pairwise_cons.2 ⟨fun d mem => ((later.bounds grow').2 d mem).1, ih later grow'⟩

theorem ends_before (h : t.Chained lo hi cs) (grow : ∀ c ∈ cs, c < (t.node c).subtreeEnd)
    {c d : Nat} (hc : c ∈ cs) (hd : d ∈ cs) (lt : c < d) : (t.node c).subtreeEnd ≤ d := by
  induction cs generalizing lo with
  | nil => simp at hc
  | cons first rest ih =>
    obtain ⟨rfl, later⟩ := chained_cons.1 h
    have grow' := fun c' mem => grow c' (List.mem_cons_of_mem first mem)
    have inside := (later.bounds grow').2
    rcases List.mem_cons.1 hc with rfl | cRest
    · rcases List.mem_cons.1 hd with rfl | dRest
      · omega
      · exact (inside d dRest).1
    · rcases List.mem_cons.1 hd with rfl | dRest
      · -- the first child starts before every later one
        have := (inside c cRest).1
        have := grow _ List.mem_cons_self
        omega
      · exact ih later grow' cRest dRest

theorem cover (h : t.Chained lo hi cs) {j : Nat} (lo_le : lo ≤ j) (lt_hi : j < hi) :
    ∃ c ∈ cs, c ≤ j ∧ j < (t.node c).subtreeEnd := by
  induction cs generalizing lo with
  | nil => have := chained_nil.1 h; omega
  | cons c rest ih =>
    obtain ⟨rfl, later⟩ := chained_cons.1 h
    by_cases inFirst : j < (t.node c).subtreeEnd
    · exact ⟨c, List.mem_cons_self, lo_le, inFirst⟩
    · obtain ⟨d, mem, le, lt⟩ := ih later (by omega)
      exact ⟨d, List.mem_cons_of_mem c mem, le, lt⟩

end Chained

/-- Node `i` heads its block of the arena: it holds its index; its subtree ends after it and
within the arena; its children start right after it and follow one another to the end of its
subtree; as a primitive it has no children; and every node inside its subtree has its own subtree
inside it. -/
structure Heads (t : SceneTree) (i : Nat) : Prop where
  index : (t.node i).index = i
  lt_subtreeEnd : i < (t.node i).subtreeEnd
  subtreeEnd_le : (t.node i).subtreeEnd ≤ t.nodes.size
  chained : t.Chained (i + 1) (t.node i).subtreeEnd (t.node i).children
  child_lt : ∀ c ∈ (t.node i).children, c < (t.node i).subtreeEnd
  leaf : (t.node i).kind.isLeaf = true → (t.node i).children = []
  nested : ∀ j, i < j → j < (t.node i).subtreeEnd →
    (t.node j).subtreeEnd ≤ (t.node i).subtreeEnd

theorem node_eq_of_getElem? {i : Nat} {n : SceneNode} (h : t.nodes[i]? = some n) : t.node i = n := by
  simp [node, getElem!_def, h]

theorem chained_starts : (bs : List Built) → {start : Nat} → Built.LaidOutAll t.nodes bs start →
    t.Chained start (start + Built.sizeAll bs) (Built.starts bs start)
  | [], _, _ => by simp [Built.starts]
  | .node kind marks pos children :: rest, start, laid => by
    obtain ⟨⟨top, _⟩, others⟩ := laid
    refine ⟨rfl, ?_⟩
    rw [node_eq_of_getElem? top]
    have := chained_starts rest others
    simp only [Built.size_node] at this
    simp only [Built.sizeAll_cons, Built.size_node]
    rwa [show start + (Built.sizeAll children + 1 + Built.sizeAll rest) =
      start + Built.sizeAll children + 1 + Built.sizeAll rest by omega]

theorem heads_of_laidOut {top : Built} (laid : top.LaidOut t.nodes 0) (bare : top.Bare)
    (size : t.nodes.size = top.size) {i : Nat} (hi : i < t.nodes.size) : t.Heads i := by
  obtain ⟨c, laidC, bareC, within⟩ := laid.nodeAt top bare (Nat.zero_le i) (by omega)
  obtain ⟨kind, marks, pos, children⟩ := c
  obtain ⟨atI, below⟩ := laidC
  have node := node_eq_of_getElem? atI
  simp only [Built.size_node, Nat.zero_add] at within
  refine ⟨by rw [node], by rw [node]; dsimp only; omega, by rw [node]; dsimp only; omega, ?_, ?_,
    ?_, ?_⟩
  · rw [node]
    have := chained_starts children below
    rwa [show i + 1 + Built.sizeAll children = i + Built.sizeAll children + 1 by omega] at this
  · rw [node]
    intro c mem
    have := Built.mem_starts mem
    dsimp only
    omega
  · rw [node]
    intro leaf
    simp [bareC.1 leaf, Built.starts]
  · intro j lo hj
    rw [node] at hj ⊢
    obtain ⟨c', laidC', _, withinC'⟩ :=
      Built.LaidOut.nodeAt (.node kind marks pos children) ⟨atI, below⟩ bareC (Nat.le_of_lt lo)
        (by simp only [Built.size_node]; omega)
    obtain ⟨kind', marks', pos', children'⟩ := c'
    rw [node_eq_of_getElem? laidC'.1]
    simp only [Built.size_node] at withinC'
    omega

/-! ### Trees in pre-order -/

/-- A tree laid out in pre-order from its top group at node 0: the top's subtree is the whole
array and every node heads its block. -/
structure PreOrder (t : SceneTree) : Prop where
  nonempty : 0 < t.nodes.size
  top_group : (t.node 0).kind = .group
  top_subtreeEnd : (t.node 0).subtreeEnd = t.nodes.size
  heads : ∀ i < t.nodes.size, t.Heads i

namespace PreOrder

variable {i : Nat}

theorem child_lt (pre : t.PreOrder) (hi : i < t.nodes.size) {c : Nat}
    (mem : c ∈ (t.node i).children) : c < t.nodes.size :=
  Nat.lt_of_lt_of_le ((pre.heads i hi).child_lt c mem) (pre.heads i hi).subtreeEnd_le

theorem children_grow (pre : t.PreOrder) (hi : i < t.nodes.size) :
    ∀ c ∈ (t.node i).children, c < (t.node c).subtreeEnd :=
  fun _ mem => (pre.heads _ (pre.child_lt hi mem)).lt_subtreeEnd

theorem child_bounds (pre : t.PreOrder) (hi : i < t.nodes.size) {c : Nat}
    (mem : c ∈ (t.node i).children) :
    i < c ∧ (t.node c).subtreeEnd ≤ (t.node i).subtreeEnd := by
  have inside := ((pre.heads i hi).chained.bounds (pre.children_grow hi)).2 c mem
  exact ⟨by omega, inside.2⟩

theorem wellFormed (pre : t.PreOrder) (root_lt : t.root < t.nodes.size) : t.WellFormed where
  root_lt := root_lt
  lt_subtreeEnd i hi := (pre.heads i hi).lt_subtreeEnd
  child_lt _ hi _ mem := pre.child_lt hi mem
  parent_lt_child _ hi _ mem := (pre.child_bounds hi mem).1
  child_subtreeEnd_le _ hi _ mem := (pre.child_bounds hi mem).2
  children_apart i hi := (pre.heads i hi).chained.pairwise (pre.children_grow hi)

theorem parent_within (pre : t.PreOrder) {i j : Nat} (hi : i < t.nodes.size) (lo : i < j)
    (hj : j < (t.node i).subtreeEnd) :
    ∃ p, i ≤ p ∧ p < t.nodes.size ∧ j ∈ (t.node p).children := by
  -- `j` lies in the subtree of a child `c`; it is `c`, or it lies strictly inside `c`'s subtree
  obtain ⟨c, mem, le, lt⟩ := (pre.heads i hi).chained.cover lo hj
  by_cases here : c = j
  · exact ⟨i, Nat.le_refl i, hi, here ▸ mem⟩
  · have bounds := pre.child_bounds hi mem
    obtain ⟨p, cp, hp, memP⟩ := parent_within pre (pre.child_lt hi mem) (by omega) lt
    exact ⟨p, by omega, hp, memP⟩
termination_by (t.node i).subtreeEnd - i
decreasing_by omega

theorem not_child_of_two (pre : t.PreOrder) {p q j : Nat} (hp : p < t.nodes.size) (hq : q < t.nodes.size)
    (lt : p < q) (jp : j ∈ (t.node p).children) (jq : j ∈ (t.node q).children) : False := by
  have jBounds := pre.child_bounds hp jp
  have qBounds := pre.child_bounds hq jq
  have jGrow := pre.children_grow hq j jq
  obtain ⟨c, cp, cq, qc⟩ := (pre.heads p hp).chained.cover (j := q) (by omega) (by omega)
  have qEnd : (t.node q).subtreeEnd ≤ (t.node c).subtreeEnd := by
    rcases Nat.eq_or_lt_of_le cq with rfl | cq
    · exact Nat.le_refl _
    · exact (pre.heads c (pre.child_lt hp cp)).nested q cq qc
  have apart := (pre.heads p hp).chained.ends_before (pre.children_grow hp) cp jp (by omega)
  omega

theorem parent_unique (pre : t.PreOrder) {p q j : Nat} (hp : p < t.nodes.size) (hq : q < t.nodes.size)
    (jp : j ∈ (t.node p).children) (jq : j ∈ (t.node q).children) : p = q := by
  rcases Nat.lt_trichotomy p q with lt | same | gt
  · exact (pre.not_child_of_two hp hq lt jp jq).elim
  · exact same
  · exact (pre.not_child_of_two hq hp gt jq jp).elim

theorem existsUnique_parent (pre : t.PreOrder) {j : Nat} (pos : 0 < j) (hj : j < t.nodes.size) :
    ∃! p, p < t.nodes.size ∧ j ∈ (t.node p).children := by
  obtain ⟨p, -, hp, mem⟩ :=
    pre.parent_within pre.nonempty pos (by rw [pre.top_subtreeEnd]; exact hj)
  exact ⟨p, ⟨hp, mem⟩, fun q ⟨hq, memQ⟩ => pre.parent_unique hq hp memQ mem⟩

theorem path_within (pre : t.PreOrder) {ok : Nat → Prop} {i k : Nat} (path : t.Path ok i k)
    (hi : i < t.nodes.size) :
    i ≤ k ∧ k < (t.node i).subtreeEnd := by
  induction path with
  | here _ => exact ⟨Nat.le_refl _, (pre.heads _ hi).lt_subtreeEnd⟩
  | down _ mem _ ih =>
    have bounds := pre.child_bounds hi mem
    have below := ih (pre.child_lt hi mem)
    omega

end PreOrder

end SceneTree


/-! ### The trees instantiation builds -/

namespace SceneTree

theorem lt_of_mem_rootCandidates {nodes : Array SceneNode} {i r : Nat}
    (h : r ∈ rootCandidates nodes i) : r < nodes.size := by
  fun_induction rootCandidates nodes i <;> grind

theorem ofBuilt_nodes (top : Built) (log : Array LogRecord) :
    ((ofBuilt top).run log).run.1.nodes = top.place #[] := by
  unfold ofBuilt
  dsimp only
  split <;> rfl

theorem ofBuilt_root_lt (top : Built) (log : Array LogRecord) :
    ((ofBuilt top).run log).run.1.root < (top.place #[]).size := by
  have pos : 0 < (top.place #[]).size := by
    rw [Built.size_place]
    have := Built.one_le_size top
    simp only [List.size_toArray, List.length_nil]
    omega
  have first : (rootCandidates (top.place #[]) 0).headD 0 < (top.place #[]).size := by
    cases roots : rootCandidates (top.place #[]) 0 with
    | nil => exact pos
    | cons r _ => exact lt_of_mem_rootCandidates (roots ▸ List.mem_cons_self)
  unfold ofBuilt
  dsimp only
  split <;> exact first

theorem preOrder_ofBuilt {made : List Built} (bare : ∀ b ∈ made, b.Bare) (log : Array LogRecord) :
    ((ofBuilt (.node .group {} 0 made)).run log).run.1.PreOrder ∧
      ((ofBuilt (.node .group {} 0 made)).run log).run.1.root <
        ((ofBuilt (.node .group {} 0 made)).run log).run.1.nodes.size := by
  generalize tree : ((ofBuilt (.node .group {} 0 made)).run log).run.1 = t
  have nodes : t.nodes = (Built.node .group {} 0 made).place #[] := tree ▸ ofBuilt_nodes _ log
  have laid : (Built.node .group {} 0 made).LaidOut t.nodes 0 := by
    rw [nodes]
    exact Built.laidOut_place _ #[]
  have size : t.nodes.size = (Built.node .group {} 0 made).size := by
    rw [nodes, Built.size_place]
    simp
  have topBare : (Built.node .group {} 0 made).Bare :=
    ⟨fun leaf => by simp [NodeKind.isLeaf] at leaf, (Built.allBare_iff made).2 bare⟩
  have top := node_eq_of_getElem? laid.1
  refine ⟨⟨?_, by rw [top], by rw [top, size]; simp, fun i hi => heads_of_laidOut laid topBare size hi⟩,
    ?_⟩
  · rw [size]
    exact Built.one_le_size _
  · rw [nodes, ← tree]
    exact ofBuilt_root_lt _ log

end SceneTree

theorem triple_mapM_all {α β : Type} (f : α → Instantiating β) (P : β → Prop)
    (E : PipelineError → Prop) (xs : List α)
    (hf : ∀ a ∈ xs, ⦃fun _ => ⌜True⌝⦄ f a ⦃post⟨fun b _ => ⌜P b⌝, fun e _ => ⌜E e⌝⟩⦄) :
    ⦃fun _ => ⌜True⌝⦄ xs.mapM f ⦃post⟨fun bs _ => ⌜∀ b ∈ bs, P b⌝, fun e _ => ⌜E e⌝⟩⦄ := by
  induction xs with
  | nil =>
    rw [List.mapM_nil]
    mvcgen
    simp
  | cons a rest ih =>
    have head := hf a List.mem_cons_self
    have tail := ih fun a' mem => hf a' (List.mem_cons_of_mem a mem)
    rw [List.mapM_cons]
    mvcgen [head, tail]
    all_goals simp_all

theorem triple_mapM_bare {α : Type} (f : α → Instantiating (List Built))
    (E : PipelineError → Prop) (xs : List α)
    (hf : ∀ a ∈ xs,
      ⦃fun _ => ⌜True⌝⦄ f a ⦃post⟨fun bs _ => ⌜∀ b ∈ bs, b.Bare⌝, fun e _ => ⌜E e⌝⟩⦄) :
    ⦃fun _ => ⌜True⌝⦄ xs.mapM f
    ⦃post⟨fun made _ => ⌜∀ bs ∈ made, ∀ b ∈ bs, b.Bare⌝, fun e _ => ⌜E e⌝⟩⦄ :=
  triple_mapM_all f (fun bs => ∀ b ∈ bs, b.Bare) E xs hf

theorem instantiateCall_bare (depth : Nat) (scope : Scope) (inst : Instantiation) :
    ⦃fun _ => ⌜True⌝⦄ instantiateCall depth scope inst
    ⦃post⟨fun made _ => ⌜∀ b ∈ made, b.Bare⌝,
      fun e _ => ⌜∃ name, e = recursionError name⌝⟩⦄ := by
  fun_induction instantiateCall depth scope inst with
  | case1 => mvcgen; simp
  | case2 depth scope inst named body callerScope caller ih =>
    mvcgen [Pipeline.triple_logged, triple_mapM_bare]
    -- the child statements, those selected or all, are instantiated in the callers' scope
    case hf.h_1 => exact fun s => ih _ _ s trivial
    case hf => exact fun s => ih _ _ s trivial
    all_goals simp_all [Built.Bare, Built.allBare_iff, NodeKind.isLeaf, List.forall_mem_flatten,
      -List.mem_flatten]
    all_goals assumption
  | case3 => mvcgen; exact ⟨_, rfl⟩
  | case4 depth scope inst named def_ found shallow ih =>
    mvcgen [Pipeline.triple_logged, triple_mapM_bare, ih]
    simp_all [Built.Bare, Built.allBare_iff, NodeKind.isLeaf, List.forall_mem_flatten,
      -List.mem_flatten]
    assumption
  | case5 depth scope inst named unknown ih =>
    mvcgen [Pipeline.triple_logged, triple_mapM_bare]
    case hf => exact fun s => ih _ _ _ ‹_› s trivial
    all_goals simp_all [Built.Bare, Built.allBare_iff, NodeKind.isLeaf, List.forall_mem_flatten,
      -List.mem_flatten]
    all_goals assumption

section Runs

variable {α : Type} {x : Instantiating α} {P : α → Prop} {E : PipelineError → Prop}

theorem Instantiating.of_triple
    (spec : ⦃fun _ => ⌜True⌝⦄ x ⦃post⟨fun a _ => ⌜P a⌝, fun e _ => ⌜E e⌝⟩⦄)
    (log : Array LogRecord) {a : α} (made : (x.run.run log).run.1 = .ok a) : P a := by
  have outcome := spec log trivial
  simp only [WP.wp, PredTrans.pushExcept, PredTrans.pushArg, PredTrans.apply, StateT.run,
    PredTrans.pure, Pure.pure] at outcome
  have made' : (ExceptT.run x log).run.1 = .ok a := made
  rw [made'] at outcome
  exact outcome

theorem Instantiating.error_of_triple
    (spec : ⦃fun _ => ⌜True⌝⦄ x ⦃post⟨fun a _ => ⌜P a⌝, fun e _ => ⌜E e⌝⟩⦄)
    (log : Array LogRecord) {e : PipelineError} (failed : (x.run.run log).run.1 = .error e) :
    E e := by
  have outcome := spec log trivial
  simp only [WP.wp, PredTrans.pushExcept, PredTrans.pushArg, PredTrans.apply, StateT.run,
    PredTrans.pure, Pure.pure] at outcome
  have failed' : (ExceptT.run x log).run.1 = .error e := failed
  rw [failed'] at outcome
  exact outcome

end Runs

theorem instantiate_preOrder (design : Design) (context : Scope) :
    ⦃fun _ => ⌜True⌝⦄ instantiate design context
    ⦃post⟨fun t _ => ⌜t.PreOrder ∧ t.root < t.nodes.size⌝,
      fun e _ => ⌜e = .noTopLevelObject ∨ ∃ name, e = recursionError name⌝⟩⦄ := by
  unfold instantiate
  mvcgen [Pipeline.triple_logged, triple_mapM_bare, instantiateCall_bare]
  case success.isFalse => exact SceneTree.preOrder_ofBuilt (List.forall_mem_flatten.2 ‹_›) _
  -- a failing call fails with the recursion error; an empty top level, for want of an object
  all_goals simp_all

theorem instantiate_wellFormed (design : Design) (context : Scope) (log : Array LogRecord)
    {t : SceneTree} (made : ((instantiate design context).run.run log).run.1 = .ok t) :
    t.WellFormed :=
  have shape := Instantiating.of_triple (instantiate_preOrder design context) log made
  shape.1.wellFormed shape.2

/-- Instantiation lays the scene tree out in pre-order. Every node holds its index. Node 0 is the
top group, and its subtree is the whole array. The children of every node start right after it,
each next one where the subtree of the one before ends, and the subtree of the last ends where the
node's does; so a node without children ends right after itself. Primitives have no children.
Every node but the top is the child of exactly one node, and whatever is reached from a node
through children lies in its subtree. -/
theorem instantiate_arena_preorder (design : Design) (context : Scope) (log : Array LogRecord)
    {t : SceneTree} (made : ((instantiate design context).run.run log).run.1 = .ok t) :
    (∀ i < t.nodes.size, (t.node i).index = i) ∧
    (0 < t.nodes.size ∧ (t.node 0).kind = .group ∧ (t.node 0).subtreeEnd = t.nodes.size) ∧
    (∀ i < t.nodes.size, t.Chained (i + 1) (t.node i).subtreeEnd (t.node i).children) ∧
    (∀ i < t.nodes.size, (t.node i).kind.isLeaf = true → (t.node i).children = []) ∧
    (∀ j, 0 < j → j < t.nodes.size → ∃! i, i < t.nodes.size ∧ j ∈ (t.node i).children) ∧
    (∀ i < t.nodes.size, ∀ j, t.Path (fun _ => True) i j →
      i ≤ j ∧ j < (t.node i).subtreeEnd) := by
  have pre := (Instantiating.of_triple (instantiate_preOrder design context) log made).1
  refine ⟨fun i hi => (pre.heads i hi).index, ⟨pre.nonempty, pre.top_group, pre.top_subtreeEnd⟩,
    fun i hi => (pre.heads i hi).chained, fun i hi => (pre.heads i hi).leaf,
    fun _ pos hj => pre.existsUnique_parent pos hj, fun _ hi _ path => pre.path_within path hi⟩

/-- A module whose body instantiates its children, called with a sphere and a union: the tree is
the top group, the module's group, the group of its children, the sphere and the union. -/
theorem instantiate_arena_preorder_children :
    let design : Design :=
      ⟨{ definitions := [⟨"m", [], { instantiations := [⟨"children", [], {}, {}, 0⟩] }⟩],
         instantiations := [⟨"m", [], {}, { instantiations :=
           [⟨"sphere", [], {}, {}, 0⟩, ⟨"union", [], {}, {}, 0⟩] }, 0⟩] }, "", [], []⟩
    ∃ t, ((instantiate design default).run.run #[]).run.1 = .ok t ∧
    (∀ i < t.nodes.size, (t.node i).index = i) ∧
    (0 < t.nodes.size ∧ (t.node 0).kind = .group ∧ (t.node 0).subtreeEnd = t.nodes.size) ∧
    (∀ i < t.nodes.size, t.Chained (i + 1) (t.node i).subtreeEnd (t.node i).children) ∧
    (∀ i < t.nodes.size, (t.node i).kind.isLeaf = true → (t.node i).children = []) ∧
    (∀ j, 0 < j → j < t.nodes.size → ∃! i, i < t.nodes.size ∧ j ∈ (t.node i).children) ∧
    (∀ i < t.nodes.size, ∀ j, t.Path (fun _ => True) i j →
      i ≤ j ∧ j < (t.node i).subtreeEnd) := by
  intro design
  suffices ran : ∃ t, ((instantiate design default).run.run #[]).run.1 = .ok t by
    obtain ⟨t, made⟩ := ran
    exact ⟨t, made, instantiate_arena_preorder design default #[] made⟩
  -- calls nest three deep (the module, `children()`, the sphere and the union), so three
  -- unfoldings leave a run that evaluates
  unfold instantiate
  rw [instantiateCall.eq_unfold, instantiateCall.eq_unfold, instantiateCall.eq_unfold]
  exact ⟨_, rfl⟩

end CsgPreview.Scene
