import Mathlib
import CsgPreview.Proofs.Csg.WalkSteps
import CsgPreview.Proofs.Csg.Provenance

/-!
Where the evaluation of a scene tree sends each piece of geometry.

A node is *clean* when it is neither disabled nor marked `%` (background) or `#` (highlight).
The main term of an evaluation holds only primitives reached from the effective root through
clean nodes. Every other term the walk gives out belongs to one marked node, its *owner*: the
owner is reached from the root through enabled nodes, every leaf of the term is a primitive
reached from the owner through clean nodes, so the owner is the leaf's nearest marked node, and a
term owned by a `#` node that is not `%` is a highlight, one owned by a `%` node a background. In
a tree laid out in pre-order no two terms have the same owner.

The walk is followed one node at a time. What a step routes out is described by `RoutedBetween`:
the new terms with their owners, the owners all different and, in a well-formed tree, all inside
a range of the pre-order. Evaluating a node adds owners from its own subtree only, and the
subtrees of siblings follow one another, so the ranges of consecutive children chain up into the
range of their parent.
-/

namespace CsgPreview.Scene.SceneTree

open Csg

variable (t : SceneTree)

/-- Not disabled. -/
def Enabled (i : Nat) : Prop := (t.node i).modifiers.disabled = false

/-- Neither disabled nor marked for the background or the highlights. -/
def Clean (i : Nat) : Prop :=
  (t.node i).modifiers.disabled = false ∧ (t.node i).modifiers.background = false ∧
    (t.node i).modifiers.highlight = false

/-- Whether a node is a primitive. -/
def IsPrimitive (i : Nat) : Prop := (t.node i).kind.isLeaf = true

/-- A way down from `i` to `k` through children, every node on it (both ends included)
satisfying `ok`. -/
inductive Path (ok : Nat → Prop) : Nat → Nat → Prop
  | here {i : Nat} : ok i → Path ok i i
  | down {i j k : Nat} : ok i → j ∈ (t.node i).children → Path ok j k → Path ok i k

/-- `k` is `n` itself or lies below a child of `n` through clean nodes only. -/
def CleanBelow (n k : Nat) : Prop := n = k ∨ ∃ c ∈ (t.node n).children, t.Path t.Clean c k

/-- Laid out in pre-order, as the tree of a design is built: the root is a node, children come
after their parent and inside its subtree, and the subtrees of the children follow one another
in the order of the children. -/
structure WellFormed : Prop where
  root_lt : t.root < t.nodes.size
  lt_subtreeEnd : ∀ i < t.nodes.size, i < (t.node i).subtreeEnd
  child_lt : ∀ i < t.nodes.size, ∀ c ∈ (t.node i).children, c < t.nodes.size
  parent_lt_child : ∀ i < t.nodes.size, ∀ c ∈ (t.node i).children, i < c
  child_subtreeEnd_le : ∀ i < t.nodes.size, ∀ c ∈ (t.node i).children,
    (t.node c).subtreeEnd ≤ (t.node i).subtreeEnd
  children_apart : ∀ i < t.nodes.size,
    (t.node i).children.Pairwise fun c c' => (t.node c).subtreeEnd ≤ c'

instance : Decidable t.WellFormed :=
  decidable_of_iff
    (t.root < t.nodes.size ∧ (∀ i < t.nodes.size, i < (t.node i).subtreeEnd) ∧
      (∀ i < t.nodes.size, ∀ c ∈ (t.node i).children, c < t.nodes.size) ∧
      (∀ i < t.nodes.size, ∀ c ∈ (t.node i).children, i < c) ∧
      (∀ i < t.nodes.size, ∀ c ∈ (t.node i).children,
        (t.node c).subtreeEnd ≤ (t.node i).subtreeEnd) ∧
      (∀ i < t.nodes.size, (t.node i).children.Pairwise fun c c' => (t.node c).subtreeEnd ≤ c'))
    ⟨fun ⟨a, b, c, d, e, f⟩ => ⟨a, b, c, d, e, f⟩, fun ⟨a, b, c, d, e, f⟩ => ⟨a, b, c, d, e, f⟩⟩

/-! ### Where each piece of geometry goes -/

/-- A primitive reached from `i` through clean nodes: a leaf node `i` passes on to its parent. -/
def CleanLeaf (i : Nat) (l : Leaf) : Prop := t.Path t.Clean i l.index ∧ t.IsPrimitive l.index

/-- A primitive owned by node `n`: `n` itself, or below it through clean nodes. -/
def OwnedLeaf (n : Nat) (l : Leaf) : Prop := t.CleanBelow n l.index ∧ t.IsPrimitive l.index

/-- A node whose term is a highlight: reached from the root through enabled nodes, marked `#`
and not `%`. -/
def HighlightOwner (n : Nat) : Prop :=
  t.Path t.Enabled t.root n ∧ (t.node n).modifiers.highlight = true ∧
    (t.node n).modifiers.background = false

/-- A node whose term is a background: reached from the root through enabled nodes, marked
`%`. -/
def BackgroundOwner (n : Nat) : Prop :=
  t.Path t.Enabled t.root n ∧ (t.node n).modifiers.background = true

/-- A highlight term and its owner, which owns every leaf of the term; the term carries no flag
but the highlight. -/
def HighlightOf (term : Term) (n : Nat) : Prop :=
  t.HighlightOwner n ∧ term.Within (t.OwnedLeaf n) ⟨true, false⟩

/-- A background term and its owner, which owns every leaf of the term; the term carries no flag
but the background. -/
def BackgroundOf (term : Term) (n : Nat) : Prop :=
  t.BackgroundOwner n ∧ term.Within (t.OwnedLeaf n) ⟨false, true⟩

/-- Where an evaluation routes the geometry of the tree: the main term holds only primitives
reached through clean nodes and carries no flag; every highlight and every background has its
owner, and in a well-formed tree no node owns two terms. -/
structure Routes (ev : Evaluated) : Prop where
  primary : OptWithin (t.CleanLeaf t.root) {} ev.primary
  owners : ∃ ho bo : List Nat, List.Forall₂ t.HighlightOf ev.highlights.toList ho ∧
    List.Forall₂ t.BackgroundOf ev.backgrounds.toList bo ∧ (t.WellFormed → (ho ++ bo).Nodup)

/-- The overlays `w'` holds beyond those of `w`: highlights and backgrounds added after them,
each with its owner, and in a well-formed tree the owners all different and all in `S`. -/
def RoutedBetween (S : Set Nat) (w w' : Walk) : Prop :=
  ∃ (H B : List Term) (ho bo : List Nat),
    w'.highlights.toList = w.highlights.toList ++ H ∧
    w'.backgrounds.toList = w.backgrounds.toList ++ B ∧
    List.Forall₂ t.HighlightOf H ho ∧ List.Forall₂ t.BackgroundOf B bo ∧
    (t.WellFormed → (ho ++ bo).Nodup ∧ ∀ n ∈ ho ++ bo, n ∈ S)

/-- What the walk knows of a node it is sent to: when enabled, it is reached from the root
through enabled nodes; in a well-formed tree, it is a node of the tree. -/
def Reached (i : Nat) : Prop :=
  (t.Enabled i → t.Path t.Enabled t.root i) ∧ (t.WellFormed → i < t.nodes.size)

/-- Subtrees that follow one another inside `[lo, hi)`, in the order of the list. -/
def Consecutive (lo hi : Nat) (cs : List Nat) : Prop :=
  cs.Pairwise (fun c c' => (t.node c).subtreeEnd ≤ c') ∧
    ∀ c ∈ cs, lo ≤ c ∧ c < (t.node c).subtreeEnd ∧ (t.node c).subtreeEnd ≤ hi

variable {t}

/-! ### Paths -/

namespace Path

variable {ok : Nat → Prop}

theorem head {i k : Nat} (h : t.Path ok i k) : ok i := by
  cases h with
  | here hi => exact hi
  | down hi _ _ => exact hi

theorem last {i k : Nat} (h : t.Path ok i k) : ok k := by
  induction h with
  | here hi => exact hi
  | down _ _ _ ih => exact ih

theorem snoc {i j k : Nat} (h : t.Path ok i j) (child : k ∈ (t.node j).children) (hk : ok k) :
    t.Path ok i k := by
  induction h with
  | here hj => exact .down hj child (.here hk)
  | down hi step _ ih => exact .down hi step (ih child)

end Path

theorem cleanLeaf_of_ownedLeaf {i : Nat} {l : Leaf} (hclean : t.Clean i) (h : t.OwnedLeaf i l) :
    t.CleanLeaf i l := by
  obtain ⟨below, prim⟩ := h
  refine ⟨?_, prim⟩
  rcases below with same | ⟨c, child, path⟩
  · exact same ▸ .here hclean
  · exact .down hclean child path

theorem ownedLeaf_of_child {i c : Nat} (child : c ∈ (t.node i).children) {l : Leaf}
    (h : t.CleanLeaf c l) : t.OwnedLeaf i l :=
  ⟨.inr ⟨c, child, h.1⟩, h.2⟩

theorem reached_root : t.Reached t.root :=
  ⟨fun en => .here en, fun wf => wf.root_lt⟩

theorem Reached.child {i c : Nat} (hi : t.Reached i) (en : t.Enabled i)
    (child : c ∈ (t.node i).children) : t.Reached c :=
  ⟨fun hc => (hi.1 en).snoc child hc, fun wf => wf.child_lt i (hi.2 wf) c child⟩

theorem WellFormed.consecutive_children (wf : t.WellFormed) {i : Nat} (hi : i < t.nodes.size) :
    t.Consecutive (i + 1) (t.node i).subtreeEnd (t.node i).children := by
  refine ⟨wf.children_apart i hi, fun c child => ⟨wf.parent_lt_child i hi c child, ?_, ?_⟩⟩
  · exact wf.lt_subtreeEnd c (wf.child_lt i hi c child)
  · exact wf.child_subtreeEnd_le i hi c child

theorem Consecutive.tail {lo hi c : Nat} {rest : List Nat} (h : t.Consecutive lo hi (c :: rest)) :
    t.Consecutive (t.node c).subtreeEnd hi rest := by
  obtain ⟨apart, inside⟩ := h
  rw [List.pairwise_cons] at apart
  exact ⟨apart.2, fun c' mem => ⟨apart.1 c' mem, (inside c' (List.mem_cons_of_mem c mem)).2⟩⟩

/-! ### What a stretch of the walk routes out -/

namespace RoutedBetween

variable {S S' S₁ S₂ : Set Nat} {w w' w₁ w₂ w₃ : Walk}

theorem of_sameOverlays (h : w.SameOverlays w') : t.RoutedBetween S w w' :=
  ⟨[], [], [], [], by rw [h.1, List.append_nil], by rw [h.2, List.append_nil], .nil, .nil,
    fun _ => ⟨List.nodup_nil, by simp⟩⟩

theorem mono (h : t.RoutedBetween S w w') (hS : t.WellFormed → S ⊆ S') :
    t.RoutedBetween S' w w' := by
  obtain ⟨H, B, ho, bo, hH, hB, hho, hbo, howners⟩ := h
  refine ⟨H, B, ho, bo, hH, hB, hho, hbo, fun wf => ⟨(howners wf).1, fun n mem => ?_⟩⟩
  exact hS wf ((howners wf).2 n mem)

theorem trans (h₁ : t.RoutedBetween S₁ w₁ w₂) (h₂ : t.RoutedBetween S₂ w₂ w₃)
    (disjoint : t.WellFormed → Disjoint S₁ S₂) : t.RoutedBetween (S₁ ∪ S₂) w₁ w₃ := by
  obtain ⟨H₁, B₁, ho₁, bo₁, hH₁, hB₁, hho₁, hbo₁, howners₁⟩ := h₁
  obtain ⟨H₂, B₂, ho₂, bo₂, hH₂, hB₂, hho₂, hbo₂, howners₂⟩ := h₂
  refine ⟨H₁ ++ H₂, B₁ ++ B₂, ho₁ ++ ho₂, bo₁ ++ bo₂, by rw [hH₂, hH₁, List.append_assoc],
    by rw [hB₂, hB₁, List.append_assoc], List.rel_append hho₁ hho₂, List.rel_append hbo₁ hbo₂,
    fun wf => ?_⟩
  obtain ⟨nodup₁, in₁⟩ := howners₁ wf
  obtain ⟨nodup₂, in₂⟩ := howners₂ wf
  have regroup : (ho₁ ++ ho₂ ++ (bo₁ ++ bo₂)).Perm (ho₁ ++ bo₁ ++ (ho₂ ++ bo₂)) := by
    simp only [List.append_assoc]
    exact .append_left ho₁ (List.perm_append_comm_assoc ho₂ bo₁ bo₂)
  refine ⟨regroup.nodup_iff.mpr (List.nodup_append.mpr ⟨nodup₁, nodup₂, ?_⟩), fun n mem => ?_⟩
  · intro a ha b hb same
    exact Set.disjoint_left.mp (disjoint wf) (in₁ a ha) (same ▸ in₂ b hb)
  · rcases List.mem_append.mp (regroup.mem_iff.mp mem) with first | second
    · exact .inl (in₁ n first)
    · exact .inr (in₂ n second)

theorem seq {a b c : Nat} (h₁ : t.RoutedBetween (Set.Ico a b) w₁ w₂)
    (h₂ : t.RoutedBetween (Set.Ico b c) w₂ w₃) (order : t.WellFormed → a ≤ b ∧ b ≤ c) :
    t.RoutedBetween (Set.Ico a c) w₁ w₃ :=
  (h₁.trans h₂ fun _ => Set.Ico_disjoint_Ico_same).mono fun wf =>
    (Set.Ico_union_Ico_eq_Ico (order wf).1 (order wf).2).le

theorem below_then_self {i e : Nat} (h₁ : t.RoutedBetween (Set.Ico (i + 1) e) w₁ w₂)
    (h₂ : t.RoutedBetween {i} w₂ w₃) (lt : t.WellFormed → i < e) :
    t.RoutedBetween (Set.Ico i e) w₁ w₃ :=
  (h₁.trans h₂ fun _ => by simp).mono fun wf n mem => by
    have := lt wf
    simp only [Set.mem_union, Set.mem_Ico, Set.mem_singleton_iff] at mem ⊢
    omega

theorem pushHighlight {term : Term} {n : Nat} (h : t.HighlightOf term n) (w : Walk) :
    t.RoutedBetween {n} w { w with highlights := w.highlights.push term } :=
  ⟨[term], [], [n], [], Array.toList_push, (List.append_nil _).symm, .cons h .nil, .nil,
    fun _ => ⟨List.nodup_singleton n, by simp⟩⟩

theorem pushBackground {term : Term} {n : Nat} (h : t.BackgroundOf term n) (w : Walk) :
    t.RoutedBetween {n} w { w with backgrounds := w.backgrounds.push term } :=
  ⟨[], [term], [], [n], (List.append_nil _).symm, Array.toList_push, .nil, .cons h .nil,
    fun _ => ⟨List.nodup_singleton n, by simp⟩⟩

end RoutedBetween

end CsgPreview.Scene.SceneTree

/-! ### The walk, step by step -/

namespace CsgPreview.Csg

open Scene SceneTree

variable {t : SceneTree}

theorem OptWithin.accumulate {p : Leaf → Prop} {acc : Option Term} {term : Term}
    (hacc : OptWithin p {} acc) (hterm : term.Within p {}) (op : Geometry.BooleanOp) :
    OptWithin p {} (accumulate op acc term) := by
  cases acc with
  | none => exact hterm
  | some acc => exact OptWithin.combine hacc (r := some term) hterm op

theorem routeOut_routes {i : Nat} {term : Option Term} (reach : t.Path t.Enabled t.root i)
    (hterm : OptWithin (t.OwnedLeaf i) {} term) :
    Walking.Sound (routeOut (t.node i) term) (t.RoutedBetween {i}) (OptWithin (t.CleanLeaf i) {}) := by
  have keep : ∀ w, t.RoutedBetween {i} w w := fun w => .of_sameOverlays (.refl w)
  unfold routeOut
  split
  case isTrue marked =>
    dsimp only
    cases term with
    | none => exact .pure keep trivial
    | some x =>
      dsimp only
      split
      case isTrue background =>
        have owner : t.BackgroundOf (x.withFlags ⟨false, true⟩) i :=
          ⟨⟨reach, background⟩,
            (hterm.mono (fun _ h => h) (Flags.empty_le _)).withFlags (Flags.le_refl _)⟩
        exact (Walking.Sound.modify _).bind (fun _ _ => .pure (R := fun w w' => w' = w)
          (fun _ => rfl) trivial) fun w₁ _ _ h₁ h₂ => h₂ ▸ h₁ ▸ .pushBackground owner w₁
      case isFalse background =>
        have highlight : (t.node i).modifiers.highlight = true := by simpa [background] using marked
        have owner : t.HighlightOf (x.withFlags ⟨true, false⟩) i :=
          ⟨⟨reach, highlight, by simpa using background⟩,
            (hterm.mono (fun _ h => h) (Flags.empty_le _)).withFlags (Flags.le_refl _)⟩
        exact (Walking.Sound.modify _).bind (fun _ _ => .pure (R := fun w w' => w' = w)
          (fun _ => rfl) trivial) fun w₁ _ _ h₁ h₂ => h₂ ▸ h₁ ▸ .pushHighlight owner w₁
  case isFalse unmarked =>
    have clean : t.Clean i := ⟨reach.last, by simp_all⟩
    exact .pure keep (hterm.mono (fun _ => cleanLeaf_of_ownedLeaf clean) (Flags.le_refl _))

section Children

variable {eval : Nat → Walking (Option Term)} {route : Nat → Walking Unit}

theorem Walking.Sound.routes_seq {α β : Type} {x : Walking α} {f : α → Walking β} {Q : α → Prop}
    {Q' : β → Prop} {a b c : Nat} (hx : Walking.Sound x (t.RoutedBetween (Set.Ico a b)) Q)
    (hf : ∀ r, Q r → Walking.Sound (f r) (t.RoutedBetween (Set.Ico b c)) Q')
    (order : t.WellFormed → a ≤ b ∧ b ≤ c) :
    Walking.Sound (x >>= f) (t.RoutedBetween (Set.Ico a c)) Q' :=
  hx.bind hf fun _ _ _ h₁ h₂ => h₁.seq h₂ order

theorem Walking.Sound.routes_mono {α : Type} {x : Walking α} {Q : α → Prop} {a b lo hi : Nat}
    (hx : Walking.Sound x (t.RoutedBetween (Set.Ico a b)) Q)
    (inside : t.WellFormed → lo ≤ a ∧ b ≤ hi) :
    Walking.Sound x (t.RoutedBetween (Set.Ico lo hi)) Q :=
  hx.mono (fun _ _ h => h.mono fun wf => Set.Ico_subset_Ico (inside wf).1 (inside wf).2)
    fun _ h => h

/-- Each child routes out of its own subtree. -/
def RoutesChildren (t : SceneTree) (cs : List Nat) (route : Nat → Walking Unit) : Prop :=
  ∀ c ∈ cs, Walking.Sound (route c) (t.RoutedBetween (Set.Ico c (t.node c).subtreeEnd))
    (fun _ => True)

theorem forM_routes {cs : List Nat} {lo hi : Nat} (hroute : RoutesChildren t cs route)
    (consecutive : t.WellFormed → t.Consecutive lo hi cs) :
    Walking.Sound (cs.forM route) (t.RoutedBetween (Set.Ico lo hi)) (fun _ => True) := by
  induction cs generalizing lo with
  | nil => exact .pure (fun w => .of_sameOverlays (.refl w)) trivial
  | cons c rest ih =>
    have tail := ih (fun c' mem => hroute c' (List.mem_cons_of_mem c mem))
      (fun wf => (consecutive wf).tail)
    have first := fun wf => (consecutive wf).2 c List.mem_cons_self
    exact ((hroute c List.mem_cons_self).routes_seq (fun _ _ => tail)
      fun wf => ⟨(first wf).2.1.le, (first wf).2.2⟩).routes_mono fun wf => ⟨(first wf).1, le_rfl⟩

theorem combineChildren_routes {p : Leaf → Prop} {cs : List Nat} {lo hi : Nat}
    (heval : ∀ c ∈ cs, Walking.Sound (eval c)
      (t.RoutedBetween (Set.Ico c (t.node c).subtreeEnd)) (OptWithin p {}))
    (hroute : RoutesChildren t cs route) (consecutive : t.WellFormed → t.Consecutive lo hi cs)
    (op : Geometry.BooleanOp) {acc : Option Term} (hacc : OptWithin p {} acc) :
    Walking.Sound (combineChildren eval route op cs acc) (t.RoutedBetween (Set.Ico lo hi))
      (OptWithin p {}) := by
  induction cs generalizing lo acc with
  | nil => exact .pure (fun w => .of_sameOverlays (.refl w)) hacc
  | cons c rest ih =>
    have hrest : RoutesChildren t rest route := fun c' mem => hroute c' (List.mem_cons_of_mem c mem)
    have tail : ∀ {acc}, OptWithin p {} acc → Walking.Sound (combineChildren eval route op rest acc)
        (t.RoutedBetween (Set.Ico (t.node c).subtreeEnd hi)) (OptWithin p {}) :=
      fun hacc' => ih (fun c' mem => heval c' (List.mem_cons_of_mem c mem)) hrest
        (fun wf => (consecutive wf).tail) hacc'
    have first := fun wf => (consecutive wf).2 c List.mem_cons_self
    rw [combineChildren]
    refine ((heval c List.mem_cons_self).routes_seq (fun r hr => ?_)
      fun wf => ⟨(first wf).2.1.le, (first wf).2.2⟩).routes_mono fun wf => ⟨(first wf).1, le_rfl⟩
    -- an empty child is skipped; a difference or intersection that became empty only walks the
    -- remaining children for overlays
    cases r with
    | none => exact tail hacc
    | some term =>
      have hnext := hacc.accumulate (p := p) hr op
      dsimp only
      split
      · exact (forM_routes hrest fun wf => (consecutive wf).tail).bind
          (fun _ _ => .pure (fun w => .of_sameOverlays (.refl w)) trivial)
          fun _ _ _ h₁ h₂ => (h₁.trans h₂ fun _ => Set.disjoint_empty _).mono fun _ => by simp
      · exact tail hnext

end Children

theorem Walking.Sound.keeps_overlays {α : Type} {x : Walking α} {Q : α → Prop} {S : Set Nat}
    (h : Walking.Sound x Walk.SameOverlays Q) : Walking.Sound x (t.RoutedBetween S) Q :=
  h.mono (fun _ _ same => .of_sameOverlays same) fun _ hq => hq

theorem walk_routes (origin fuel : Nat) :
    ∀ i matrix color, t.Reached i →
      Walking.Sound (evalNode t origin fuel i matrix color)
        (t.RoutedBetween (Set.Ico i (t.node i).subtreeEnd)) (OptWithin (t.CleanLeaf i) {}) ∧
      Walking.Sound (routeOverlays t origin fuel i matrix color)
        (t.RoutedBetween (Set.Ico i (t.node i).subtreeEnd)) (fun _ => True) := by
  have keep : ∀ {S : Set Nat} w, t.RoutedBetween S w w := fun w => .of_sameOverlays (.refl w)
  induction fuel with
  | zero => exact fun _ _ _ _ => ⟨.pure keep trivial, .pure keep trivial⟩
  | succ fuel ih =>
    intro i matrix color reach
    have own_range : t.WellFormed → i < (t.node i).subtreeEnd := fun wf =>
      wf.lt_subtreeEnd i (reach.2 wf)
    have children := fun (en : t.Enabled i) matrix color c (mem : c ∈ (t.node i).children) =>
      ih c matrix color (reach.child en mem)
    constructor
    · rw [evalNode]
      split
      case isTrue disabled =>
        exact ((markDone_sound _).bind (fun _ _ => .pure Walk.SameOverlays.refl trivial)
          fun _ _ _ => .trans).keeps_overlays
      case isFalse enabled =>
        have en : t.Enabled i := by simpa [Enabled] using enabled
        dsimp only
        -- the node's term, from its leaf or its children, is then routed out by the node
        split
        case h_1 prim =>
          have owned : ∀ r, (∃ g, r = Term.ofLeaf ⟨g, matrix, color, leafLabel (t.key i), i⟩) →
              OptWithin (t.OwnedLeaf i) {} r := by
            rintro r ⟨g, rfl⟩
            exact optWithin_ofLeaf ⟨.inl rfl, by simp [IsPrimitive, prim, NodeKind.isLeaf]⟩
          exact (primitiveTerm_sound _ _ _ _ _ _).keeps_overlays.bind
            (fun r hr => routeOut_routes (reach.1 en) (owned r hr))
            fun _ _ _ h₁ h₂ => h₁.below_then_self h₂ own_range
        case h_2 =>
          have heval : ∀ matrix color, ∀ c ∈ (t.node i).children, Walking.Sound
              (evalNode t origin fuel c matrix color)
              (t.RoutedBetween (Set.Ico c (t.node c).subtreeEnd)) (OptWithin (t.OwnedLeaf i) {}) :=
            fun matrix color c mem => (children en matrix color c mem).1.mono (fun _ _ h => h)
              fun _ h => h.mono (fun _ => ownedLeaf_of_child mem) (Flags.le_refl _)
          exact (combineChildren_routes (heval _ _) (fun c mem => (children en _ _ c mem).2)
            (fun wf => wf.consecutive_children (reach.2 wf)) _ (optWithin_none (p := t.OwnedLeaf i))).bind
            (fun r hr => routeOut_routes (reach.1 en) hr)
            fun _ _ _ h₁ h₂ => h₁.below_then_self h₂ own_range
    · rw [routeOverlays]
      split
      case isTrue marked => exact (ih i matrix color reach).1.discard
      case isFalse unmarked =>
        split
        case isTrue disabled => exact (markDone_sound _).keeps_overlays
        case isFalse enabled =>
          have en : t.Enabled i := by simpa [Enabled] using enabled
          split
          case h_1 => exact (markDone_sound _).keeps_overlays
          case h_2 =>
            split
            exact (forM_routes (fun c mem => (children en _ _ c mem).2)
              fun wf => wf.consecutive_children (reach.2 wf)).routes_mono
              fun wf => ⟨Nat.le_succ i, le_rfl⟩

theorem evaluate_routes {w : Walk} (fresh : w.highlights = #[] ∧ w.backgrounds = #[])
    (log : Array LogRecord) {ev : Evaluated}
    (h : (((evaluate t).run.run w).run log).run.1.1 = .ok ev) : t.Routes ev := by
  unfold evaluate at h
  rw [Walking.run_modify_bind] at h
  rcases hroot : (((evalNode t t.root (t.nodes.size + 1) t.root Geometry.Mat4.identity
    none).run.run { w with progress := Pipeline.Progress.start t.totalIndexCount }).run log).run with
    ⟨⟨r, w₂⟩, log₂⟩
  cases r with
  | error e =>
    rw [Walking.run_bind_of_error hroot] at h
    simp at h
  | ok primary =>
    simp only [Walking.run_bind_of_ok hroot, Walking.run_modify_bind, Walking.run_get_bind,
      Walking.run_pure, Except.ok.injEq] at h
    subst h
    have ⟨routed, hprimary⟩ := (walk_routes t.root _ t.root _ _ reached_root).1
      { w with progress := Pipeline.Progress.start t.totalIndexCount } log primary w₂
      (by rw [hroot])
    obtain ⟨H, B, ho, bo, hH, hB, hho, hbo, owners⟩ := routed
    refine ⟨hprimary, ho, bo, ?_, ?_, fun wf => (owners wf).1⟩
    · simpa [hH, fresh.1] using hho
    · simpa [hB, fresh.2] using hbo

end CsgPreview.Csg
