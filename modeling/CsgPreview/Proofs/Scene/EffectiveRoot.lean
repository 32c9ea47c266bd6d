import Mathlib
import CsgPreview.Proofs.Pipeline.Overlays
import CsgPreview.Proofs.Pipeline.ExactKeys
import CsgPreview.Proofs.Pipeline.PreviewTransparent

/-!
The effective root of a scene tree, and what the evaluations read.

The root is found by a loop over the arena: it collects the nodes marked `!` in index order, and
when it meets a disabled node it jumps to the end of that node's subtree. In an arena laid out in
pre-order, this collects exactly what a recursive pre-order walk collects that does not enter
disabled nodes (`liveRoots`): a node's subtree is the block from the node to its subtree's end,
and the subtrees of its children follow one another inside that block. So the first candidate is
the first node, in index order, marked `!` and reached from the top through enabled nodes only.

Everything downstream stays inside the block of the root: the walk that evaluates the preview
terms and the exact render read only the nodes and keys of that block, so the leaves of the
evaluated terms and the entries of a build's chains come from it, and progress counts its nodes.
-/

namespace CsgPreview.Scene.SceneTree

open Csg Pipeline

variable (t : SceneTree)

/-! ### The loop and the recursive walk -/

/-- The nodes marked `!` that a pre-order walk from `i` meets when it does not enter disabled
nodes; `fuel` bounds the depth. -/
def liveRoots : Nat → Nat → List Nat
  | 0, _ => []
  | fuel + 1, i =>
    if (t.node i).modifiers.disabled then []
    else (if (t.node i).modifiers.root then [i] else []) ++
      (t.node i).children.flatMap (liveRoots fuel)

/-- A node that may be the effective root: marked `!` and reached from the top through enabled
nodes only, so that neither it nor any node above it is disabled. -/
def LiveRoot (k : Nat) : Prop := (t.node k).modifiers.root = true ∧ t.Path t.Enabled 0 k

variable {t}

theorem liveRoots_succ (fuel i : Nat) :
    t.liveRoots (fuel + 1) i =
      if (t.node i).modifiers.disabled then []
      else (if (t.node i).modifiers.root then [i] else []) ++
        (t.node i).children.flatMap (t.liveRoots fuel) := rfl

theorem node_eq_getElem {i : Nat} (hi : i < t.nodes.size) : t.node i = t.nodes[i] := by
  simp [node, getElem!_pos, hi]

theorem rootCandidates_of_lt {i : Nat} (hi : i < t.nodes.size) :
    rootCandidates t.nodes i =
      if (t.node i).modifiers.disabled then
        rootCandidates t.nodes (max (t.node i).subtreeEnd (i + 1))
      else if (t.node i).modifiers.root then i :: rootCandidates t.nodes (i + 1)
      else rootCandidates t.nodes (i + 1) := by
  rw [rootCandidates, dif_pos hi, node_eq_getElem hi]

theorem rootCandidates_of_size_le {nodes : Array SceneNode} {i : Nat} (h : nodes.size ≤ i) :
    rootCandidates nodes i = [] := by
  rw [rootCandidates, dif_neg (by omega)]

theorem le_of_mem_rootCandidates {nodes : Array SceneNode} {i k : Nat}
    (h : k ∈ rootCandidates nodes i) : i ≤ k := by
  fun_induction rootCandidates nodes i <;> grind

theorem rootCandidates_sorted (nodes : Array SceneNode) (i : Nat) :
    (rootCandidates nodes i).Pairwise (· < ·) := by
  fun_induction rootCandidates nodes i with
  | case1 => assumption
  | case2 i h n _ _ ih =>
    exact List.pairwise_cons.2 ⟨fun k mem => le_of_mem_rootCandidates mem, ih⟩
  | case3 => assumption
  | case4 => exact List.Pairwise.nil

theorem rootCandidates_chained {fuel : Nat}
    (step : ∀ i < t.nodes.size, (t.node i).subtreeEnd - i ≤ fuel →
      rootCandidates t.nodes i = t.liveRoots fuel i ++ rootCandidates t.nodes (t.node i).subtreeEnd) :
    ∀ {cs : List Nat} {lo hi : Nat}, t.Chained lo hi cs →
      (∀ c ∈ cs, c < t.nodes.size ∧ (t.node c).subtreeEnd - c ≤ fuel) →
      rootCandidates t.nodes lo = cs.flatMap (t.liveRoots fuel) ++ rootCandidates t.nodes hi
  | [], lo, hi, chained, _ => by
    rw [chained_nil.1 chained]
    rfl
  | c :: rest, lo, hi, chained, bounded => by
    obtain ⟨rfl, later⟩ := chained_cons.1 chained
    have first := bounded c List.mem_cons_self
    rw [step c first.1 first.2,
      rootCandidates_chained step later fun c' mem => bounded c' (List.mem_cons_of_mem c mem),
      List.flatMap_cons, List.append_assoc]

theorem rootCandidates_eq_liveRoots_append (pre : t.PreOrder) (fuel : Nat) :
    ∀ i < t.nodes.size, (t.node i).subtreeEnd - i ≤ fuel →
      rootCandidates t.nodes i = t.liveRoots fuel i ++ rootCandidates t.nodes (t.node i).subtreeEnd := by
  induction fuel with
  | zero =>
    intro i hi bound
    have := (pre.heads i hi).lt_subtreeEnd
    omega
  | succ fuel ih =>
    intro i hi bound
    have heads := pre.heads i hi
    rw [rootCandidates_of_lt hi, liveRoots_succ]
    by_cases disabled : (t.node i).modifiers.disabled = true
    · simp [disabled, Nat.max_eq_left heads.lt_subtreeEnd]
    · -- the children's subtrees fill the rest of the node's subtree, each within the fuel left
      have children := rootCandidates_chained ih heads.chained fun c mem => by
        have bounds := pre.child_bounds hi mem
        exact ⟨pre.child_lt hi mem, by omega⟩
      simp only [disabled, Bool.false_eq_true, if_false, children]
      split <;> simp

theorem rootCandidates_eq_liveRoots (pre : t.PreOrder) :
    rootCandidates t.nodes 0 = t.liveRoots t.nodes.size 0 := by
  rw [rootCandidates_eq_liveRoots_append pre t.nodes.size 0 pre.nonempty
      (by rw [pre.top_subtreeEnd]; omega),
    pre.top_subtreeEnd, rootCandidates_of_size_le (Nat.le_refl _), List.append_nil]

theorem root_path_of_mem_liveRoots {fuel i k : Nat} (h : k ∈ t.liveRoots fuel i) :
    (t.node k).modifiers.root = true ∧ t.Path t.Enabled i k := by
  induction fuel generalizing i with
  | zero => simp [liveRoots] at h
  | succ fuel ih =>
    rw [liveRoots_succ] at h
    by_cases disabled : (t.node i).modifiers.disabled = true
    · simp [disabled] at h
    · have enabled : t.Enabled i := by simpa [Enabled] using disabled
      simp only [disabled, Bool.false_eq_true, if_false, List.mem_append, List.mem_flatMap] at h
      rcases h with here | ⟨c, child, below⟩
      · by_cases marked : (t.node i).modifiers.root = true
        · simp only [marked, if_true, List.mem_singleton] at here
          subst here
          exact ⟨marked, .here enabled⟩
        · simp [marked] at here
      · obtain ⟨marked, path⟩ := ih below
        exact ⟨marked, .down enabled child path⟩

theorem mem_liveRoots_of_path (pre : t.PreOrder) {i k : Nat} (path : t.Path t.Enabled i k)
    (marked : (t.node k).modifiers.root = true) :
    ∀ {fuel}, i < t.nodes.size → (t.node i).subtreeEnd - i ≤ fuel → k ∈ t.liveRoots fuel i := by
  induction path with
  | @here i enabled =>
    intro fuel hi bound
    obtain ⟨fuel, rfl⟩ : ∃ f, fuel = f + 1 :=
      Nat.exists_eq_add_one.2 (by have := (pre.heads i hi).lt_subtreeEnd; omega)
    have : (t.node i).modifiers.disabled = false := enabled
    simp [liveRoots_succ, this, marked]
  | @down i c _ enabled child _ ih =>
    intro fuel hi bound
    have bounds := pre.child_bounds hi child
    obtain ⟨fuel, rfl⟩ : ∃ f, fuel = f + 1 :=
      Nat.exists_eq_add_one.2 (by have := (pre.heads i hi).lt_subtreeEnd; omega)
    have : (t.node i).modifiers.disabled = false := enabled
    simp only [liveRoots_succ, this, Bool.false_eq_true, if_false, List.mem_append,
      List.mem_flatMap]
    exact Or.inr ⟨c, child, ih marked (pre.child_lt hi child) (by omega)⟩

theorem mem_rootCandidates_iff (pre : t.PreOrder) {k : Nat} :
    k ∈ rootCandidates t.nodes 0 ↔ t.LiveRoot k := by
  rw [rootCandidates_eq_liveRoots pre]
  exact ⟨root_path_of_mem_liveRoots, fun ⟨marked, path⟩ =>
    mem_liveRoots_of_path pre path marked pre.nonempty (by rw [pre.top_subtreeEnd]; omega)⟩

theorem isLeast_headD_rootCandidates (pre : t.PreOrder) (some_live : ∃ k, t.LiveRoot k) :
    IsLeast {k | t.LiveRoot k} ((rootCandidates t.nodes 0).headD 0) := by
  obtain ⟨k, live⟩ := some_live
  have sorted := rootCandidates_sorted t.nodes 0
  have member := (mem_rootCandidates_iff pre).2 live
  cases roots : rootCandidates t.nodes 0 with
  | nil => simp [roots] at member
  | cons first rest =>
    rw [roots] at sorted
    refine ⟨(mem_rootCandidates_iff pre).1 (by simp [roots]), fun k' live' => ?_⟩
    have member' := (mem_rootCandidates_iff pre).2 live'
    rw [roots] at member'
    rcases List.mem_cons.1 member' with rfl | later
    · exact Nat.le_refl _
    · exact Nat.le_of_lt (List.rel_of_pairwise_cons sorted later)

theorem headD_rootCandidates_of_none (pre : t.PreOrder) (none_live : ¬∃ k, t.LiveRoot k) :
    (rootCandidates t.nodes 0).headD 0 = 0 := by
  cases roots : rootCandidates t.nodes 0 with
  | nil => rfl
  | cons first rest =>
    exact (none_live ⟨first, (mem_rootCandidates_iff pre).1 (by simp [roots])⟩).elim

theorem headD_rootCandidates_lt (pre : t.PreOrder) :
    (rootCandidates t.nodes 0).headD 0 < t.nodes.size := by
  cases roots : rootCandidates t.nodes 0 with
  | nil => exact pre.nonempty
  | cons first rest => exact lt_of_mem_rootCandidates (roots ▸ List.mem_cons_self)

theorem ofBuilt_root (top : Built) (log : Array LogRecord) :
    ((ofBuilt top).run log).run.1.root = (rootCandidates (top.place #[]) 0).headD 0 := by
  unfold ofBuilt
  dsimp only
  split <;> rfl

/-! ### The block of the root -/

theorem PreOrder.subtree_le (pre : t.PreOrder) {ok : Nat → Prop} {i j : Nat}
    (path : t.Path ok i j) (hi : i < t.nodes.size) :
    i ≤ j ∧ j < (t.node j).subtreeEnd ∧ (t.node j).subtreeEnd ≤ (t.node i).subtreeEnd := by
  have within := pre.path_within path hi
  have hj : j < t.nodes.size := Nat.lt_of_lt_of_le within.2 (pre.heads i hi).subtreeEnd_le
  refine ⟨within.1, (pre.heads j hj).lt_subtreeEnd, ?_⟩
  rcases Nat.eq_or_lt_of_le within.1 with rfl | lt
  · exact Nat.le_refl _
  · exact (pre.heads i hi).nested j lt within.2

theorem ownedLeaf_mem_subtree (pre : t.PreOrder) (root_lt : t.root < t.nodes.size) {n : Nat}
    (owner : t.Path t.Enabled t.root n) {l : Leaf} (owned : t.OwnedLeaf n l) :
    l.index ∈ Set.Ico t.root (t.node t.root).subtreeEnd := by
  have outer := pre.subtree_le owner root_lt
  have hn : n < t.nodes.size :=
    Nat.lt_of_lt_of_le (Nat.lt_of_lt_of_le outer.2.1 outer.2.2) (pre.heads _ root_lt).subtreeEnd_le
  rcases owned.1 with same | ⟨c, child, path⟩
  · rw [← same]
    exact ⟨outer.1, Nat.lt_of_lt_of_le outer.2.1 outer.2.2⟩
  · -- the leaf lies below a child of the owner, inside the owner's subtree
    have bounds := pre.child_bounds hn child
    have inner := pre.path_within path (pre.child_lt hn child)
    exact ⟨by omega, by omega⟩

theorem drawnAs_mem_subtree (pre : t.PreOrder) (root_lt : t.root < t.nodes.size)
    {mode : ColorMode} {l : Leaf} (h : t.DrawnAs mode l) :
    l.index ∈ Set.Ico t.root (t.node t.root).subtreeEnd := by
  cases mode with
  | material => exact pre.path_within h.1 root_lt
  | highlight =>
    obtain ⟨n, owner, owned⟩ := h
    exact ownedLeaf_mem_subtree pre root_lt owner.1 owned
  | background =>
    obtain ⟨n, owner, owned⟩ := h
    exact ownedLeaf_mem_subtree pre root_lt owner.1 owned

end CsgPreview.Scene.SceneTree

namespace CsgPreview.Csg

open Scene SceneTree

def Evaluated.terms (ev : Evaluated) : List Term :=
  ev.primary.toList ++ ev.highlights.toList ++ ev.backgrounds.toList

theorem Term.Within.leafOccurrences {p : Leaf → Prop} {F : Flags} {x : Term} (h : x.Within p F) :
    ∀ o ∈ x.leafOccurrences, p o.1 := by
  induction x with
  | leaf l b f => simpa [Term.leafOccurrences] using h.1
  | op o l r b n f ihl ihr =>
    intro occurrence mem
    rcases List.mem_append.1 mem with left | right
    · exact ihl h.1 occurrence left
    · exact ihr h.2.1 occurrence right

/-! ### The walk reads only the subtree it starts at -/

theorem forM_congr_of_mem {m : Type → Type} [Monad m] {α : Type} {xs : List α}
    {f g : α → m PUnit} (h : ∀ a ∈ xs, f a = g a) : xs.forM f = xs.forM g := by
  induction xs with
  | nil => rfl
  | cons a rest ih =>
    simp only [List.forM, h a List.mem_cons_self, ih fun b mem => h b (List.mem_cons_of_mem a mem)]

theorem combineChildren_congr {eval eval' : Nat → Walking (Option Term)}
    {route route' : Nat → Walking Unit} {op : Geometry.BooleanOp} {cs : List Nat}
    (he : ∀ c ∈ cs, eval c = eval' c) (hr : ∀ c ∈ cs, route c = route' c) (acc : Option Term) :
    combineChildren eval route op cs acc = combineChildren eval' route' op cs acc := by
  induction cs generalizing acc with
  | nil => rfl
  | cons c rest ih =>
    have he' := fun b mem => he b (List.mem_cons_of_mem c mem)
    have hr' := fun b mem => hr b (List.mem_cons_of_mem c mem)
    rw [combineChildren, combineChildren, he c List.mem_cons_self, forM_congr_of_mem hr']
    simp only [ih he' hr']

end CsgPreview.Csg

namespace CsgPreview.Scene.SceneTree

open Csg

/-- Two trees hold the same nodes and keys over the subtree of node `i`, as the first lays it
out. -/
def AgreeOn (t t' : SceneTree) (i : Nat) : Prop :=
  ∀ k, i ≤ k → k < (t.node i).subtreeEnd → t'.node k = t.node k ∧ t'.key k = t.key k

variable {t t' : SceneTree} {i : Nat}

theorem Drawn.leaves_mem_subtree (pre : t.PreOrder) (root_lt : t.root < t.nodes.size)
    {ev : Evaluated} (drawn : t.Drawn ev) :
    ∀ x ∈ ev.terms, ∀ o ∈ x.leafOccurrences, o.1.index ∈ Set.Ico t.root (t.node t.root).subtreeEnd := by
  intro x mem
  simp only [Evaluated.terms, List.mem_append, Option.mem_toList] at mem
  rcases mem with (primary | highlight) | background
  · have within : x.Within (t.DrawnAs .material) {} := by simpa [primary] using drawn.primary
    exact fun o occurs => drawnAs_mem_subtree pre root_lt (within.leafOccurrences o occurs)
  · exact fun o occurs =>
      drawnAs_mem_subtree pre root_lt ((drawn.highlights x highlight).leafOccurrences o occurs)
  · exact fun o occurs =>
      drawnAs_mem_subtree pre root_lt ((drawn.backgrounds x background).leafOccurrences o occurs)

theorem AgreeOn.self (pre : t.PreOrder) (hi : i < t.nodes.size) (agree : AgreeOn t t' i) :
    t'.node i = t.node i ∧ t'.key i = t.key i :=
  agree i (Nat.le_refl i) (pre.heads i hi).lt_subtreeEnd

theorem AgreeOn.child (pre : t.PreOrder) (hi : i < t.nodes.size) (agree : AgreeOn t t' i)
    {c : Nat} (child : c ∈ (t.node i).children) : AgreeOn t t' c := fun k lo hk => by
  have bounds := pre.child_bounds hi child
  exact agree k (by omega) (by omega)

theorem totalIndexCount_eq_of_agree (pre : t.PreOrder) (root_lt : t.root < t.nodes.size)
    (root : t'.root = t.root) (agree : AgreeOn t t' t.root) :
    t'.totalIndexCount = t.totalIndexCount := by
  simp only [totalIndexCount, rootNode, root, (agree.self pre root_lt).1]

end CsgPreview.Scene.SceneTree

namespace CsgPreview.Csg

open Scene SceneTree

variable {t t' : SceneTree}

theorem walk_eq_of_agreeOn (pre : t.PreOrder) (origin fuel : Nat) :
    ∀ i matrix color, i < t.nodes.size → AgreeOn t t' i →
      evalNode t origin fuel i matrix color = evalNode t' origin fuel i matrix color ∧
        routeOverlays t origin fuel i matrix color = routeOverlays t' origin fuel i matrix color := by
  induction fuel with
  | zero => exact fun _ _ _ _ _ => ⟨rfl, rfl⟩
  | succ fuel ih =>
    intro i matrix color hi agree
    obtain ⟨sameNode, sameKey⟩ := agree.self pre hi
    have children := fun matrix color c (child : c ∈ (t.node i).children) =>
      ih c matrix color (pre.child_lt hi child) (agree.child pre hi child)
    constructor
    · rw [evalNode, evalNode, sameNode]
      simp only [primitiveTerm, sameKey]
      by_cases disabled : (t.node i).modifiers.disabled = true
      · simp only [disabled, if_true]
      · simp only [disabled, Bool.false_eq_true, if_false]
        split
        · rfl
        · congr 1
          exact combineChildren_congr (fun c child => (children _ _ c child).1)
            (fun c child => (children _ _ c child).2) none
    · rw [routeOverlays, routeOverlays, sameNode]
      split
      · -- a marked node met for overlays is evaluated as a whole
        rw [(ih i matrix color hi agree).1]
      · by_cases disabled : (t.node i).modifiers.disabled = true
        · simp only [disabled, if_true]
        · simp only [disabled, Bool.false_eq_true, if_false]
          split
          · rfl
          · exact forM_congr_of_mem fun c child => (children _ _ c child).2

theorem evaluate_eq_of_agreeOn (pre : t.PreOrder) (root_lt : t.root < t.nodes.size)
    (size : t'.nodes.size = t.nodes.size) (root : t'.root = t.root) (agree : AgreeOn t t' t.root) :
    evaluate t = evaluate t' := by
  unfold evaluate
  rw [totalIndexCount_eq_of_agree pre root_lt root agree, size, root,
    (walk_eq_of_agreeOn pre t.root _ t.root _ _ root_lt agree).1]

end CsgPreview.Csg

namespace CsgPreview.Pipeline

open Scene SceneTree

variable {G : Type} {t t' : SceneTree}

theorem renderNode_eq_of_agreeOn (K : SolidKernel G) (pre : t.PreOrder) (fuel : Nat) :
    ∀ i, i < t.nodes.size → AgreeOn t t' i →
      renderNode K t fuel i = renderNode K t' fuel i := by
  induction fuel with
  | zero => exact fun _ _ _ => rfl
  | succ fuel ih =>
    intro i hi agree
    obtain ⟨sameNode, sameKey⟩ := agree.self pre hi
    have children : ∀ c ∈ (t.node i).children,
        renderNode K t fuel c = renderNode K t' fuel c :=
      fun c child => ih c (pre.child_lt hi child) (agree.child pre hi child)
    rw [renderNode, renderNode, sameNode, sameKey]
    simp (disch := assumption) only [forIn_eq_forIn', children]

theorem renderTree_eq_of_agreeOn (K : SolidKernel G) (pre : t.PreOrder) (root_lt : t.root < t.nodes.size)
    (size : t'.nodes.size = t.nodes.size) (root : t'.root = t.root) (agree : AgreeOn t t' t.root) :
    renderTree K t = renderTree K t' := by
  unfold renderTree
  rw [totalIndexCount_eq_of_agree pre root_lt root agree, size, root,
    renderNode_eq_of_agreeOn K pre _ t.root root_lt agree]

end CsgPreview.Pipeline

namespace CsgPreview.Scene.SceneTree

open Csg Pipeline

/-- The effective root. In an arena laid out in pre-order whose root is the loop's first candidate
(as the tree of a compile takes it), the root is the first node, in index order, marked `!` and
reached from the top without passing a disabled node, or the top group when there is none.
Progress counts the nodes of the root's subtree. The preview evaluation and the exact render
read nothing outside that subtree: a tree that differs only in nodes and keys outside it gives
the same computations. Every leaf of the evaluated terms, and every entry of the three chains a
build makes from the tree, comes from that subtree. -/
theorem effectiveRoot_first_live (t : SceneTree) (pre : t.PreOrder)
    (root : t.root = (rootCandidates t.nodes 0).headD 0) :
    ((∃ k, t.LiveRoot k) → IsLeast {k | t.LiveRoot k} t.root) ∧
    ((¬∃ k, t.LiveRoot k) → t.root = 0) ∧
    t.totalIndexCount = (t.node t.root).subtreeEnd - t.root ∧
    (∀ t' : SceneTree, t'.nodes.size = t.nodes.size → t'.root = t.root → AgreeOn t t' t.root →
      evaluate t = evaluate t' ∧
        ∀ {G : Type} (K : SolidKernel G), renderTree K t = renderTree K t') ∧
    (∀ (w : Walk) log ev, w.highlights = #[] → w.backgrounds = #[] →
      (((evaluate t).run.run w).run log).run.1.1 = .ok ev →
      ∀ x ∈ ev.terms, ∀ o ∈ x.leafOccurrences,
        o.1.index ∈ Set.Ico t.root (t.node t.root).subtreeEnd) ∧
    (∀ (s : Session) log chains, s.coordinator.tree = some t →
      ((Session.buildProducts.run s).run log).run.1.1 = .ok chains →
      ∀ e ∈ chains.primary.entries.toList ++ chains.highlights.entries.toList ++
        chains.background.entries.toList, e.index ∈ Set.Ico t.root (t.node t.root).subtreeEnd) := by
  have root_lt : t.root < t.nodes.size := root ▸ headD_rootCandidates_lt pre
  refine ⟨fun some_live => root ▸ isLeast_headD_rootCandidates pre some_live,
    fun none_live => root.trans (headD_rootCandidates_of_none pre none_live), ?_, ?_, ?_, ?_⟩
  · simp [totalIndexCount, rootNode, SceneNode.subtreeLen, (pre.heads _ root_lt).index]
  · intro t' size sameRoot agree
    exact ⟨evaluate_eq_of_agreeOn pre root_lt size sameRoot agree,
      fun K => renderTree_eq_of_agreeOn K pre root_lt size sameRoot agree⟩
  · intro w log ev noHighlights noBackgrounds evaluated
    exact (evaluate_routes ⟨noHighlights, noBackgrounds⟩ log evaluated).drawn.leaves_mem_subtree
      pre root_lt
  · intro s log chains current built e mem
    obtain ⟨tree, same, routed⟩ :=
      Session.run_of_triple (Session.buildProducts_routed s.coordinator.tree) rfl log chains built
    rw [current, Option.some.injEq] at same
    subst same
    -- each chain draws its own part of the tree, all of it inside the root's subtree
    simp only [List.mem_append] at mem
    rcases mem with (primary | highlight) | background
    · exact drawnAs_mem_subtree pre root_lt (routed.1 e primary).2
    · exact drawnAs_mem_subtree pre root_lt (routed.2.1 e highlight).2
    · exact drawnAs_mem_subtree pre root_lt (routed.2.2 e background).2

/-- A top group over a disabled union holding a `!` union, then a `!` union: the tree laid out
from it meets the hypotheses, and the root lies after the disabled subtree. -/
theorem effectiveRoot_first_live_skips_disabled :
    let top : Built := .node .group {} 0
      [.node .union { disabled := true } 0 [.node .union { root := true } 0 []],
        .node .union { root := true } 0 []]
    let t := ((ofBuilt top).run #[]).run.1
    t.PreOrder ∧ t.root = (rootCandidates t.nodes 0).headD 0 ∧
    ((∃ k, t.LiveRoot k) → IsLeast {k | t.LiveRoot k} t.root) ∧
    ((¬∃ k, t.LiveRoot k) → t.root = 0) ∧
    t.totalIndexCount = (t.node t.root).subtreeEnd - t.root ∧
    (∀ t' : SceneTree, t'.nodes.size = t.nodes.size → t'.root = t.root → AgreeOn t t' t.root →
      evaluate t = evaluate t' ∧
        ∀ {G : Type} (K : SolidKernel G), renderTree K t = renderTree K t') ∧
    (∀ (w : Walk) log ev, w.highlights = #[] → w.backgrounds = #[] →
      (((evaluate t).run.run w).run log).run.1.1 = .ok ev →
      ∀ x ∈ ev.terms, ∀ o ∈ x.leafOccurrences,
        o.1.index ∈ Set.Ico t.root (t.node t.root).subtreeEnd) ∧
    (∀ (s : Session) log chains, s.coordinator.tree = some t →
      ((Session.buildProducts.run s).run log).run.1.1 = .ok chains →
      ∀ e ∈ chains.primary.entries.toList ++ chains.highlights.entries.toList ++
        chains.background.entries.toList, e.index ∈ Set.Ico t.root (t.node t.root).subtreeEnd) := by
  intro top t
  have bare : ∀ b ∈ [Built.node .union { disabled := true } 0 [.node .union { root := true } 0 []],
      .node .union { root := true } 0 []], b.Bare := by
    simp [Built.Bare, Built.AllBare, NodeKind.isLeaf]
  have pre : t.PreOrder := (preOrder_ofBuilt bare #[]).1
  have root : t.root = (rootCandidates t.nodes 0).headD 0 := by
    rw [ofBuilt_root, ofBuilt_nodes]
  exact ⟨pre, root, effectiveRoot_first_live t pre root⟩

end CsgPreview.Scene.SceneTree
