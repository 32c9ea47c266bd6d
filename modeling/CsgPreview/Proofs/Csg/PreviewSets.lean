import Mathlib
import CsgPreview.Proofs.Csg.PreviewTerm

/-!
The sets the preview's terms stand for.

Read every primitive as a set of points and every matrix as a map of points, and let a preview
leaf stand for the set of its node's primitive moved by the leaf's matrix. Then the term the
preview gives a drawn subtree stands for the set of the subtree moved by the transform it is
placed under, as long as the reading is lawful (the identity moves nothing and a product of
matrices composes their maps), the transforms of the tree move points one to one, no node is
highlighted, the set of every placed leaf lies in its box, and the preview keeps no term for a
subtree that stands for nothing.

The last condition is where the two evaluations part. The preview prunes by boxes, so it keeps
the term of a subtree whose boxes meet although its set is empty, such as the difference of a
cube and itself. Such a term stands for the empty set: as the first operand of a difference, or
an operand of an intersection, it empties the combination, where the exact evaluation drops the
subtree and combines the others.

The proof goes down the tree. A map one to one takes intersections and differences of sets to
those of the moved sets, and combining the children's terms left to right follows the exact left
fold over their sets, an empty child skipped on both sides.
-/

namespace CsgPreview.Geometry

/-- A reading of points in which the identity moves nothing and the map of a product of matrices
is the composite of their maps. -/
structure PointReading.Lawful (I : PointReading) : Prop where
  act_identity : I.act Mat4.identity = id
  act_mul : ∀ a b, I.act (a.mul b) = I.act a ∘ I.act b

theorem BooleanOp.image_onSets {f : Vec3 → Vec3} (hf : Function.Injective f) (op : BooleanOp)
    (A B : Set Vec3) : f '' op.onSets A B = op.onSets (f '' A) (f '' B) := by
  cases op with
  | union => exact Set.image_union f A B
  | intersection => exact Set.image_inter hf
  | difference => exact Set.image_sdiff hf A B

theorem BooleanOp.foldl_onSets_empty {op : BooleanOp} (hop : op ≠ .union) (xs : List (Set Vec3)) :
    xs.foldl op.onSets ∅ = ∅ := by
  induction xs with
  | nil => rfl
  | cons X rest ih =>
    have hempty : op.onSets ∅ X = ∅ := by
      cases op with
      | union => exact absurd rfl hop
      | intersection => exact Set.empty_inter X
      | difference => exact Set.empty_sdiff X
    rw [List.foldl_cons, hempty, ih]

end CsgPreview.Geometry

namespace CsgPreview.Scene.SceneTree

open CsgPreview.Geometry Csg

variable (I : PointReading) (t : SceneTree)

def leafSet (l : Leaf) : Set Vec3 :=
  match (t.node l.index).kind with
  | .primitive p => I.act l.matrix '' I.shape p
  | _ => ∅

/-- Where the walk places the nodes it evaluates for the main term: the effective root under the
identity, and each child of a drawn node under the transform the node places its children
under. -/
inductive Placed : Nat → Mat4 → Prop
  | root : Placed t.root Mat4.identity
  | child {i c : Nat} {matrix : Mat4} : Placed i matrix → t.Rendered i →
      c ∈ (t.node i).children → Placed c (placement (t.node i).kind matrix none).1

def previewTermAt (i : Nat) (matrix : Mat4) (color : Option Rgba) : Option Term :=
  t.previewTerm (t.nodes.size + 1) i matrix color

/-- What the preview needs of a reading to stand for the sets of the tree: no node is
highlighted, every transform of the tree moves points one to one, and every primitive placed in
the tree stands for a set that, moved, lies in its moved preview box, and for nothing when it is
drawn with nothing. -/
structure PreviewReading : Prop where
  no_highlight : ∀ i < t.nodes.size, (t.node i).modifiers.highlight = false
  injective : ∀ i < t.nodes.size, ∀ m, (t.node i).kind = .transform m →
    Function.Injective (I.act m)
  in_box : ∀ i matrix p, t.Placed i matrix → (t.node i).kind = .primitive p →
    I.act matrix '' I.shape p ⊆ (p.previewShape.box.transformed matrix).points
  empty_of_isEmpty : ∀ i p, (t.node i).kind = .primitive p → p.previewShape.isEmpty = true →
    I.shape p = ∅

/-- The preview keeps no term for a drawn subtree that stands for nothing: every placed subtree
that the preview gives a term stands for a set. -/
def PrunesEmpty : Prop :=
  ∀ i matrix color, t.Placed i matrix → (t.previewTermAt i matrix color).isSome →
    (t.solidAt I i).isSome

variable {I t}

/-! ### The term of a node, by its kind -/

theorem previewTerm_of_not_rendered {i : Nat} (h : ¬t.Rendered i) (fuel : Nat) (matrix : Mat4)
    (color : Option Rgba) : t.previewTerm fuel i matrix color = none := by
  cases fuel with
  | zero => rfl
  | succ fuel =>
    rw [rendered_iff, Bool.not_eq_false, Bool.or_eq_true] at h
    rcases h with disabled | background
    · simp [previewTerm, disabled]
    · simp [previewTerm, background]

theorem previewTerm_succ_primitive {i : Nat} (hr : t.Rendered i)
    (hl : (t.node i).modifiers.highlight = false) {p : Primitive}
    (prim : (t.node i).kind = .primitive p) (fuel : Nat) (matrix : Mat4) (color : Option Rgba) :
    t.previewTerm (fuel + 1) i matrix color =
      Term.ofLeaf ⟨p.previewShape, matrix, color, leafLabel (t.key i), i⟩ := by
  simp [previewTerm, hr.1, hr.2, hl, prim]

theorem previewTerm_succ_combine {i : Nat} (hr : t.Rendered i)
    (hl : (t.node i).modifiers.highlight = false) (hk : ∀ p, (t.node i).kind ≠ .primitive p)
    (fuel : Nat) (matrix : Mat4) (color : Option Rgba) :
    t.previewTerm (fuel + 1) i matrix color =
      combineTerms (t.node i).kind.combineOp ((t.node i).children.map fun c =>
        t.previewTerm fuel c (placement (t.node i).kind matrix color).1
          (placement (t.node i).kind matrix color).2) none := by
  simp only [previewTerm, hr.1, hr.2, hl, Bool.false_eq_true, ↓reduceIte, Bool.or_self]

end CsgPreview.Scene.SceneTree

namespace CsgPreview.Scene.SceneTree

open CsgPreview.Geometry Csg

variable {I : PointReading} {t : SceneTree}

theorem placement_fst_color (kind : NodeKind) (matrix : Mat4) (color : Option Rgba) :
    (placement kind matrix color).1 = (placement kind matrix none).1 := by
  cases kind <;> rfl

section WellFormed

variable (wf : t.WellFormed)
include wf

theorem previewTerm_fuel_eq {fuel fuel' i : Nat} (hi : i < t.nodes.size)
    (hfuel : t.nodes.size - i ≤ fuel) (hfuel' : t.nodes.size - i ≤ fuel') (matrix : Mat4)
    (color : Option Rgba) : t.previewTerm fuel i matrix color = t.previewTerm fuel' i matrix color := by
  induction fuel generalizing fuel' i matrix color with
  | zero => omega
  | succ fuel ih =>
    obtain ⟨fuel', rfl⟩ : ∃ f, fuel' = f + 1 := ⟨fuel' - 1, by omega⟩
    -- every child lies after its parent, so it needs one step of fuel less
    have hchildren : ∀ matrix color, ((t.node i).children.map fun c =>
        t.previewTerm fuel c matrix color) = (t.node i).children.map fun c =>
          t.previewTerm fuel' c matrix color := fun matrix color =>
      List.map_congr_left fun c mem => by
        have hc := wf.child_lt i hi c mem
        have hlt := wf.parent_lt_child i hi c mem
        exact ih hc (by omega) (by omega) matrix color
    simp only [previewTerm, hchildren]

theorem previewTerm_eq_previewTermAt {fuel i : Nat} (hi : i < t.nodes.size)
    (hfuel : t.nodes.size - i ≤ fuel) (matrix : Mat4) (color : Option Rgba) :
    t.previewTerm fuel i matrix color = t.previewTermAt i matrix color :=
  previewTerm_fuel_eq wf hi hfuel (by omega) matrix color

theorem Placed.lt_size {i : Nat} {matrix : Mat4} (h : t.Placed i matrix) : i < t.nodes.size := by
  induction h with
  | root => exact wf.root_lt
  | child _ _ mem ih => exact wf.child_lt _ ih _ mem

omit wf in
theorem injective_placement (lawful : I.Lawful) (reading : t.PreviewReading I) {i : Nat}
    (hi : i < t.nodes.size) {matrix : Mat4} (h : Function.Injective (I.act matrix)) :
    Function.Injective (I.act (placement (t.node i).kind matrix none).1) := by
  cases hk : (t.node i).kind with
  | transform m =>
    rw [placement, lawful.act_mul]
    exact h.comp (reading.injective i hi m hk)
  | _ => exact h

theorem Placed.injective (lawful : I.Lawful) (reading : t.PreviewReading I) {i : Nat}
    {matrix : Mat4} (h : t.Placed i matrix) : Function.Injective (I.act matrix) := by
  induction h with
  | root => exact lawful.act_identity ▸ Function.injective_id
  | child hi _ _ ih => exact injective_placement lawful reading (hi.lt_size wf) ih

end WellFormed

end CsgPreview.Scene.SceneTree

namespace CsgPreview.Geometry

open Scene Csg

theorem PointReading.Lawful.image_combine {I : PointReading} (lawful : I.Lawful) (kind : NodeKind)
    (matrix : Mat4) (xs : List (Set Vec3)) :
    I.act (placement kind matrix none).1 '' (foldOperands kind.combineOp xs).getD ∅ =
      I.act matrix '' (I.combine kind xs).getD ∅ := by
  cases kind with
  | transform m =>
    -- the children are moved by the node's matrix after the node's own transform
    simp only [placement, lawful.act_mul, PointReading.combine, NodeKind.combineOp, Set.image_comp]
    cases foldOperands .union xs <;> simp
  | _ => rfl

end CsgPreview.Geometry

namespace CsgPreview.Csg

open CsgPreview.Geometry

variable {S : Leaf → Set Vec3} {f : Vec3 → Vec3}

/-- A term that stands for an exact result moved by `f`: it is covered, it means the moved set,
and it is empty exactly when the result is. -/
structure StandsFor (S : Leaf → Set Vec3) (f : Vec3 → Vec3) (term : Option Term)
    (X : Option (Set Vec3)) : Prop where
  covered : OptCovered S term
  denote : optDenote S term = f '' X.getD ∅
  isSome : term.isSome = X.isSome

theorem standsFor_none (f : Vec3 → Vec3) : StandsFor S f none none := ⟨trivial, by simp, rfl⟩

theorem StandsFor.of_denote {term : Option Term} {X : Option (Set Vec3)}
    (hcov : OptCovered S term) (hden : optDenote S term = f '' X.getD ∅)
    (hX : ∀ Y, X = some Y → Y.Nonempty) (hsome : term.isSome → X.isSome) :
    StandsFor S f term X := by
  refine ⟨hcov, hden, ?_⟩
  cases X with
  | none => cases term <;> simp_all
  | some Y =>
    cases term with
    | none =>
      -- the result has points, so its image does, while the empty term means nothing
      simp only [optDenote_none, Option.getD_some] at hden
      exact ((hX Y rfl).image f).ne_empty hden.symm |>.elim
    | some _ => rfl

theorem StandsFor.eq_none_of_none {X : Option (Set Vec3)} (h : StandsFor S f none X) :
    X = none := by
  simpa using h.isSome.symm

theorem StandsFor.exists_of_some {term : Term} {X : Option (Set Vec3)}
    (h : StandsFor S f (some term) X) : ∃ Y, X = some Y ∧ term.Covered S ∧ term.denote S = f '' Y := by
  obtain ⟨Y, rfl⟩ : ∃ Y, X = some Y := Option.isSome_iff_exists.mp (by simpa using h.isSome.symm)
  exact ⟨Y, rfl, h.covered, h.denote⟩

theorem combineFlagged_union_isSome (l r : Term) (flags : Flags) :
    (Term.combineFlagged .union (some l) (some r) flags).isSome := by
  simp only [Term.combineFlagged]
  split <;> rfl

variable {P : Nat → Option Term} {E : Nat → Option (Set Vec3)}

theorem combineTerms_from_term (hf : Function.Injective f) (op : BooleanOp) {cs : List Nat}
    (hcs : ∀ c ∈ cs, StandsFor S f (P c) (E c)) {acc : Term} {Y : Set Vec3}
    (hcov : acc.Covered S) (hY : acc.denote S = f '' Y) :
    OptCovered S (combineTerms op (cs.map P) (some acc)) ∧
      optDenote S (combineTerms op (cs.map P) (some acc)) =
        f '' (cs.filterMap E).foldl op.onSets Y := by
  induction cs generalizing acc Y with
  | nil => exact ⟨hcov, hY⟩
  | cons c rest ih =>
    have hrest : ∀ {acc : Term} {Y : Set Vec3}, acc.Covered S → acc.denote S = f '' Y → _ :=
      fun {_ _} => ih fun c' mem => hcs c' (List.mem_cons_of_mem c mem)
    have hc := hcs c List.mem_cons_self
    rw [List.map_cons, List.filterMap_cons]
    cases hPc : P c with
    | none =>
      -- an empty child is skipped on both sides
      rw [hPc] at hc
      simpa only [combineTerms, hc.eq_none_of_none] using hrest hcov hY
    | some term =>
      rw [hPc] at hc
      obtain ⟨X, hEc, hcovc, hdenc⟩ := hc.exists_of_some
      have hRcov : OptCovered S (accumulate op (some acc) term) :=
        OptCovered.combineFlagged (l := some acc) (r := some term) hcov hcovc op {}
      have hRden : optDenote S (accumulate op (some acc) term) = f '' op.onSets Y X := by
        rw [BooleanOp.image_onSets hf, ← hY, ← hdenc]
        exact optDenote_combineFlagged (l := some acc) (r := some term) hcov hcovc op {}
      simp only [combineTerms, hEc, List.foldl_cons]
      split
      case isTrue stop =>
        -- a difference or an intersection became empty, and so does the exact fold
        obtain ⟨hnone, hop⟩ : accumulate op (some acc) term = none ∧ op ≠ .union := by
          simpa using stop
        have hempty : op.onSets Y X = ∅ := by
          rw [hnone, optDenote_none] at hRden
          exact Set.image_eq_empty.mp hRden.symm
        refine ⟨trivial, ?_⟩
        rw [hempty, BooleanOp.foldl_onSets_empty hop, Set.image_empty, optDenote_none]
      case isFalse going =>
        -- only a union goes on past an empty accumulation, and a union is never empty
        obtain ⟨T, hT⟩ : ∃ T, accumulate op (some acc) term = some T := by
          cases hR : accumulate op (some acc) term with
          | some T => exact ⟨T, rfl⟩
          | none =>
            have hunion := combineFlagged_union_isSome acc term {}
            cases op
            case union =>
              simp only [accumulate, Term.combine] at hR
              simp [hR] at hunion
            all_goals simp_all
        rw [hT] at hRcov hRden ⊢
        exact hrest hRcov hRden

theorem combineTerms_denote (hf : Function.Injective f) (op : BooleanOp) {cs : List Nat}
    (hcs : ∀ c ∈ cs, StandsFor S f (P c) (E c)) :
    OptCovered S (combineTerms op (cs.map P) none) ∧
      optDenote S (combineTerms op (cs.map P) none) =
        f '' (foldOperands op (cs.filterMap E)).getD ∅ := by
  induction cs with
  | nil => exact ⟨trivial, by simp [combineTerms, foldOperands]⟩
  | cons c rest ih =>
    have hrest := ih fun c' mem => hcs c' (List.mem_cons_of_mem c mem)
    have hc := hcs c List.mem_cons_self
    rw [List.map_cons, List.filterMap_cons]
    cases hPc : P c with
    | none =>
      rw [hPc] at hc
      simpa only [combineTerms, hc.eq_none_of_none] using hrest
    | some term =>
      -- the first child with a term starts both folds
      rw [hPc] at hc
      obtain ⟨X, hEc, hcovc, hdenc⟩ := hc.exists_of_some
      simp only [combineTerms, accumulate, Option.isNone_some, Bool.false_and, Bool.false_eq_true,
        ↓reduceIte, hEc, foldOperands, getD_ifNonempty]
      exact combineTerms_from_term hf op (fun c' mem => hcs c' (List.mem_cons_of_mem c mem)) hcovc
        hdenc

end CsgPreview.Csg

namespace CsgPreview.Scene.SceneTree

open CsgPreview.Geometry Csg

variable {I : PointReading} {t : SceneTree}

theorem leafSet_of_primitive {l : Leaf} {p : Primitive} (prim : (t.node l.index).kind = .primitive p) :
    t.leafSet I l = I.act l.matrix '' I.shape p := by
  simp [leafSet, prim]

section Sets

variable (wf : t.WellFormed) (lawful : I.Lawful) (reading : t.PreviewReading I)
  (prunes : t.PrunesEmpty I)
include wf lawful reading prunes

theorem previewTerm_standsFor (fuel : Nat) :
    ∀ i matrix color, i < t.nodes.size → t.nodes.size - i ≤ fuel → t.Placed i matrix →
      StandsFor (t.leafSet I) (I.act matrix) (t.previewTerm fuel i matrix color)
        (t.solid I fuel i) := by
  induction fuel with
  | zero => intro i _ _ hi hfuel; omega
  | succ fuel ih =>
    intro i matrix color hi hfuel placed
    by_cases hr : t.Rendered i
    case neg =>
      rw [previewTerm_of_not_rendered hr, solid_of_not_rendered hr]
      exact standsFor_none _
    have hl := reading.no_highlight i hi
    have hsome : (t.previewTerm (fuel + 1) i matrix color).isSome →
        (t.solid I (fuel + 1) i).isSome := by
      rw [previewTerm_eq_previewTermAt wf hi hfuel, solid_eq_solidAt wf hi hfuel]
      exact prunes i matrix color placed
    have hpoints : ∀ Y, t.solid I (fuel + 1) i = some Y → Y.Nonempty := fun _ => nonempty_of_solid
    suffices hcd : OptCovered (t.leafSet I) (t.previewTerm (fuel + 1) i matrix color) ∧
        optDenote (t.leafSet I) (t.previewTerm (fuel + 1) i matrix color) =
          I.act matrix '' (t.solid I (fuel + 1) i).getD ∅ from
      StandsFor.of_denote hcd.1 hcd.2 hpoints hsome
    by_cases prim : ∃ p, (t.node i).kind = .primitive p
    case pos =>
      obtain ⟨p, prim⟩ := prim
      rw [previewTerm_succ_primitive hr hl prim, solid_succ_of_rendered hr, prim]
      dsimp only
      unfold Term.ofLeaf
      split
      case isTrue empty =>
        rw [reading.empty_of_isEmpty i p prim empty]
        simp [ifNonempty]
      case isFalse drawn =>
        have hset : t.leafSet I ⟨p.previewShape, matrix, color, leafLabel (t.key i), i⟩ =
            I.act matrix '' I.shape p := leafSet_of_primitive prim
        refine ⟨?_, ?_⟩
        · show t.leafSet I _ ⊆ _
          rw [hset]
          exact reading.in_box i matrix p placed prim
        · rw [optDenote_some, getD_ifNonempty]
          exact hset
    case neg =>
      have hk : ∀ p, (t.node i).kind ≠ .primitive p := fun p h => prim ⟨p, h⟩
      have hsolid : t.solid I (fuel + 1) i =
          I.combine (t.node i).kind ((t.node i).children.filterMap (t.solid I fuel)) := by
        rw [solid_succ_of_rendered hr]
        split
        · exact (hk _ ‹_›).elim
        · rfl
      rw [previewTerm_succ_combine hr hl hk, hsolid, placement_fst_color, ← lawful.image_combine]
      -- every child is placed under the transform the node places its children under
      refine combineTerms_denote (injective_placement lawful reading hi
        (placed.injective wf lawful reading)) _ fun c mem => ?_
      have hc := wf.child_lt i hi c mem
      have hlt := wf.parent_lt_child i hi c mem
      exact ih c _ _ hc (by omega) (placed.child hr mem)

theorem previewTermAt_root_denote :
    optDenote (t.leafSet I) (t.previewTermAt t.root Mat4.identity none) =
      (t.solidAt I t.root).getD ∅ := by
  have root := (previewTerm_standsFor wf lawful reading prunes (t.nodes.size + 1) t.root
    Mat4.identity none wf.root_lt (by omega) .root).denote
  rw [lawful.act_identity, Set.image_id] at root
  exact root

end Sets

end CsgPreview.Scene.SceneTree
