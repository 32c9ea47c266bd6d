import Mathlib
import CsgPreview.Proofs.Csg.Denote
import CsgPreview.Proofs.Csg.Routing

/-!
The point set a scene tree stands for.

Read every primitive as a set of points and every transform as a map of points, and a subtree
stands for one set: its node's operation applied left to right to the sets of those of its
children that are drawn and not empty, a transform moving the union of its children. Disabled
and background subtrees stand for nothing, and so does a subtree whose set is empty: that is how
a kernel hands back an empty result. The walk down the tree is bounded by a fuel, which makes no
difference once it reaches past the last node.

Subtree keys name what a subtree stands for as long as they do not collide: in an unambiguous
tree, drawn nodes with equal keys stand for the same set.
-/

namespace CsgPreview.Geometry

/-- Primitives read as sets of points and transforms as maps of points. -/
structure PointReading where
  shape : Primitive → Set Vec3
  act : Mat4 → Vec3 → Vec3

open Classical in
noncomputable def ifNonempty (X : Set Vec3) : Option (Set Vec3) := if X = ∅ then none else some X

noncomputable def foldOperands (op : BooleanOp) : List (Set Vec3) → Option (Set Vec3)
  | [] => none
  | X :: rest => ifNonempty (rest.foldl op.onSets X)

variable {X Y : Set Vec3}

@[simp] theorem ifNonempty_eq_none_iff : ifNonempty X = none ↔ X = ∅ := by
  unfold ifNonempty
  split <;> simp_all

theorem ifNonempty_eq_some_iff : ifNonempty X = some Y ↔ X.Nonempty ∧ X = Y := by
  unfold ifNonempty
  split <;> simp_all [Set.nonempty_iff_ne_empty]

theorem ifNonempty_of_nonempty (h : X.Nonempty) : ifNonempty X = some X :=
  ifNonempty_eq_some_iff.mpr ⟨h, rfl⟩

@[simp] theorem getD_ifNonempty : (ifNonempty X).getD ∅ = X := by
  unfold ifNonempty
  split <;> simp_all

theorem nonempty_of_foldOperands {op : BooleanOp} {xs : List (Set Vec3)}
    (h : foldOperands op xs = some X) : X.Nonempty := by
  cases xs with
  | nil => cases h
  | cons Z rest =>
    obtain ⟨hne, rfl⟩ := ifNonempty_eq_some_iff.mp h
    exact hne

/-- The set of a node that is not a primitive, from the sets of its children: a transform moves
their union, any other node combines them with its operation. -/
noncomputable def PointReading.combine (I : PointReading) (kind : Scene.NodeKind)
    (operands : List (Set Vec3)) : Option (Set Vec3) :=
  match kind with
  | .transform m => (foldOperands .union operands).map (Set.image (I.act m))
  | kind => foldOperands kind.combineOp operands

theorem PointReading.nonempty_of_combine {I : PointReading} {kind : Scene.NodeKind}
    {operands : List (Set Vec3)} (h : I.combine kind operands = some X) : X.Nonempty := by
  unfold PointReading.combine at h
  split at h
  · obtain ⟨Y, hY, rfl⟩ := Option.map_eq_some_iff.mp h
    exact (nonempty_of_foldOperands hY).image _
  · exact nonempty_of_foldOperands h

@[simp] theorem PointReading.combine_ne_some_empty {I : PointReading} {kind : Scene.NodeKind}
    {operands : List (Set Vec3)} : I.combine kind operands ≠ some ∅ := fun h =>
  Set.not_nonempty_empty (PointReading.nonempty_of_combine h)

end CsgPreview.Geometry

namespace CsgPreview.Scene.SceneTree

open CsgPreview.Geometry

variable (I : PointReading) (t : SceneTree)

/-- Drawn by the exact render: neither disabled nor in the background. -/
def Rendered (i : Nat) : Prop :=
  (t.node i).modifiers.disabled = false ∧ (t.node i).modifiers.background = false

def renderedChildren (i : Nat) : List Nat :=
  (t.node i).children.filter fun c => !((t.node c).modifiers.disabled || (t.node c).modifiers.background)

noncomputable def solid : Nat → Nat → Option (Set Vec3)
  | 0, _ => none
  | fuel + 1, i =>
    let n := t.node i
    if n.modifiers.disabled || n.modifiers.background then none
    else
      match n.kind with
      | .primitive p => ifNonempty (I.shape p)
      | kind => I.combine kind (n.children.filterMap (solid fuel))

noncomputable def solidAt (i : Nat) : Option (Set Vec3) := t.solid I (t.nodes.size + 1) i

/-- Keys and primitive descriptions that do not collide: drawn nodes with equal keys are the same
operation over children with equal keys, and primitives described alike are equal. -/
structure Unambiguous : Prop where
  key_eq : ∀ i < t.nodes.size, ∀ j < t.nodes.size, t.key i = t.key j →
    (t.node i).kind = (t.node j).kind ∧
      List.Forall₂ (fun a b => t.key a = t.key b) (t.renderedChildren i) (t.renderedChildren j)
  describe_eq : ∀ i < t.nodes.size, ∀ j < t.nodes.size, ∀ p q : Primitive,
    (t.node i).kind = .primitive p → (t.node j).kind = .primitive q → p.describe = q.describe →
      p = q

variable {I t}

theorem rendered_iff {i : Nat} :
    t.Rendered i ↔ ((t.node i).modifiers.disabled || (t.node i).modifiers.background) = false := by
  simp [Rendered]

theorem solid_of_not_rendered {i : Nat} (h : ¬t.Rendered i) (fuel : Nat) :
    t.solid I fuel i = none := by
  cases fuel with
  | zero => rfl
  | succ fuel =>
    rw [rendered_iff, Bool.not_eq_false] at h
    simp [solid, h]

theorem solid_succ_of_rendered {i : Nat} (h : t.Rendered i) (fuel : Nat) :
    t.solid I (fuel + 1) i =
      match (t.node i).kind with
      | .primitive p => ifNonempty (I.shape p)
      | kind => I.combine kind ((t.node i).children.filterMap (t.solid I fuel)) := by
  rw [rendered_iff] at h
  simp only [solid, h, Bool.false_eq_true, ↓reduceIte]

theorem nonempty_of_solid {fuel i : Nat} {X : Set Vec3} (h : t.solid I fuel i = some X) :
    X.Nonempty := by
  cases fuel with
  | zero => cases h
  | succ fuel =>
    by_cases hr : t.Rendered i
    · rw [solid_succ_of_rendered hr] at h
      split at h
      · obtain ⟨hne, rfl⟩ := ifNonempty_eq_some_iff.mp h
        exact hne
      · exact PointReading.nonempty_of_combine h
    · rw [solid_of_not_rendered hr] at h
      cases h

theorem filterMap_children_eq {β : Type} {f : Nat → Option β}
    (hf : ∀ c, ¬t.Rendered c → f c = none) (i : Nat) :
    (t.node i).children.filterMap f = (t.renderedChildren i).filterMap f := by
  unfold renderedChildren
  induction (t.node i).children with
  | nil => rfl
  | cons c rest ih =>
    rw [List.filter_cons]
    by_cases hr : t.Rendered c
    · have hb := rendered_iff.mp hr
      simp only [hb, Bool.not_false, ↓reduceIte, List.filterMap_cons, ih]
    · have hb : ((t.node c).modifiers.disabled || (t.node c).modifiers.background) = true := by
        rwa [rendered_iff, Bool.not_eq_false] at hr
      simp only [List.filterMap_cons, hf c hr, hb, Bool.not_true, Bool.false_eq_true,
        ↓reduceIte, ih]

theorem filterMap_solid_children (i fuel : Nat) :
    (t.node i).children.filterMap (t.solid I fuel) =
      (t.renderedChildren i).filterMap (t.solid I fuel) :=
  filterMap_children_eq (fun _ hc => solid_of_not_rendered hc fuel) i

theorem rendered_of_mem_renderedChildren {i c : Nat} (mem : c ∈ t.renderedChildren i) :
    t.Rendered c := by
  have := (List.mem_filter.mp mem).2
  rw [rendered_iff]
  simpa using this

theorem filterMap_eq_filterMap_of_forall₂ {α β γ : Type} {R : α → β → Prop} {f : α → Option γ}
    {g : β → Option γ} {l₁ : List α} {l₂ : List β} (h : List.Forall₂ R l₁ l₂)
    (hfg : ∀ a b, a ∈ l₁ → b ∈ l₂ → R a b → f a = g b) : l₁.filterMap f = l₂.filterMap g := by
  induction h with
  | nil => rfl
  | cons hab _ ih =>
    rw [List.filterMap_cons, List.filterMap_cons,
      hfg _ _ List.mem_cons_self List.mem_cons_self hab,
      ih fun a b ha hb => hfg a b (List.mem_cons_of_mem _ ha) (List.mem_cons_of_mem _ hb)]

theorem solidAt_of_not_rendered {i : Nat}
    (h : (t.node i).modifiers.disabled = true ∨ (t.node i).modifiers.background = true) :
    t.solidAt I i = none :=
  solid_of_not_rendered (by rintro ⟨hd, hb⟩; simp_all) _

theorem lt_of_kind_eq_primitive {i : Nat} {p : Primitive}
    (hk : (t.node i).kind = .primitive p) : i < t.nodes.size := by
  by_contra out
  rw [node, getElem!_neg t.nodes i out] at hk
  cases hk

section WellFormed

variable (wf : t.WellFormed)
include wf

theorem solid_fuel_eq {fuel fuel' i : Nat} (hi : i < t.nodes.size)
    (hfuel : t.nodes.size - i ≤ fuel) (hfuel' : t.nodes.size - i ≤ fuel') :
    t.solid I fuel i = t.solid I fuel' i := by
  induction fuel generalizing fuel' i with
  | zero => omega
  | succ fuel ih =>
    obtain ⟨fuel', rfl⟩ : ∃ f, fuel' = f + 1 := ⟨fuel' - 1, by omega⟩
    by_cases hr : t.Rendered i
    · -- every child lies after its parent, so it needs one step of fuel less
      have hchildren : (t.node i).children.filterMap (t.solid I fuel) =
          (t.node i).children.filterMap (t.solid I fuel') := by
        refine List.filterMap_congr fun c mem => ?_
        have hc := wf.child_lt i hi c mem
        have hlt := wf.parent_lt_child i hi c mem
        exact ih hc (by omega) (by omega)
      rw [solid_succ_of_rendered hr, solid_succ_of_rendered hr, hchildren]
    · rw [solid_of_not_rendered hr, solid_of_not_rendered hr]

theorem solid_eq_solidAt {fuel i : Nat} (hi : i < t.nodes.size)
    (hfuel : t.nodes.size - i ≤ fuel) : t.solid I fuel i = t.solidAt I i :=
  solid_fuel_eq wf hi hfuel (by omega)

theorem solidAt_of_rendered {i : Nat} (hi : i < t.nodes.size) (hr : t.Rendered i) :
    t.solidAt I i =
      match (t.node i).kind with
      | .primitive p => ifNonempty (I.shape p)
      | kind => I.combine kind ((t.node i).children.filterMap (t.solidAt I)) := by
  have hchildren : (t.node i).children.filterMap (t.solid I t.nodes.size) =
      (t.node i).children.filterMap (t.solidAt I) :=
    List.filterMap_congr fun c mem =>
      solid_eq_solidAt wf (wf.child_lt i hi c mem) (by omega)
  rw [solidAt, solid_succ_of_rendered hr, hchildren]

theorem solidAt_primitive {i : Nat} (hi : i < t.nodes.size) (hr : t.Rendered i) {p : Primitive}
    (hk : (t.node i).kind = .primitive p) : t.solidAt I i = ifNonempty (I.shape p) := by
  rw [solidAt_of_rendered wf hi hr, hk]

theorem solidAt_combine {i : Nat} (hi : i < t.nodes.size) (hr : t.Rendered i)
    (hk : ∀ p, (t.node i).kind = .primitive p → False) :
    t.solidAt I i = I.combine (t.node i).kind ((t.node i).children.filterMap (t.solidAt I)) := by
  rw [solidAt_of_rendered wf hi hr]
  split
  · exact (hk _ ‹_›).elim
  · rfl

theorem lt_of_mem_renderedChildren {i c : Nat} (hi : i < t.nodes.size)
    (mem : c ∈ t.renderedChildren i) : c < t.nodes.size :=
  wf.child_lt i hi c (List.mem_of_mem_filter mem)

theorem solid_eq_of_key_eq (hu : t.Unambiguous) (fuel : Nat) :
    ∀ i j, i < t.nodes.size → j < t.nodes.size → t.Rendered i → t.Rendered j →
      t.key i = t.key j → t.solid I fuel i = t.solid I fuel j := by
  induction fuel with
  | zero => intros; rfl
  | succ fuel ih =>
    intro i j hi hj hri hrj hkey
    obtain ⟨hkind, hkids⟩ := hu.key_eq i hi j hj hkey
    have hchildren : (t.node i).children.filterMap (t.solid I fuel) =
        (t.node j).children.filterMap (t.solid I fuel) := by
      rw [filterMap_solid_children, filterMap_solid_children]
      exact filterMap_eq_filterMap_of_forall₂ hkids fun a b ha hb hab =>
        ih a b (lt_of_mem_renderedChildren wf hi ha) (lt_of_mem_renderedChildren wf hj hb)
          (rendered_of_mem_renderedChildren ha) (rendered_of_mem_renderedChildren hb) hab
    rw [solid_succ_of_rendered hri, solid_succ_of_rendered hrj, hchildren, hkind]

theorem solidAt_eq_of_key_eq (hu : t.Unambiguous) {i j : Nat} (hi : i < t.nodes.size)
    (hj : j < t.nodes.size) (hri : t.Rendered i) (hrj : t.Rendered j) (hkey : t.key i = t.key j) :
    t.solidAt I i = t.solidAt I j :=
  solid_eq_of_key_eq wf hu _ i j hi hj hri hrj hkey

end WellFormed

end CsgPreview.Scene.SceneTree
