import Mathlib
import CsgPreview.Pipeline.Render
import CsgPreview.Proofs.Scene.Solid
import CsgPreview.Proofs.Cache.Entries
import CsgPreview.Proofs.Pipeline.Quiescent
import CsgPreview.Proofs.Pipeline.Keeps

/-!
The exact render over exact point sets.

Under the kernel that reads primitives as point sets and combines them exactly (`setKernel`),
the exact render of a subtree is the set the subtree stands for (`SceneTree.solid`). The exact
cache is the one thing to watch: a hit hands back what was stored under the node's key, and in
an unambiguous tree every drawn node with that key stands for that set. So a render keeps a
faithful cache faithful, and from a faithful cache (an empty one in particular) it renders every
subtree to its set.
-/

namespace CsgPreview.Pipeline

open Std.Do CsgPreview.Geometry Scene Cache

set_option mvcgen.warning false

open Classical in
/-- The kernel of exact point sets: a primitive is its set, a transform maps its points,
operands are combined exactly, and only the empty set is empty. -/
noncomputable def setKernel (I : PointReading) : SolidKernel (Set Vec3) where
  primitive tessellations p := (tessellations, I.shape p)
  transform X m := I.act m '' X
  combine op operands := pure (foldOperands op operands)
  isEmpty X := decide (X = ∅)
  weight _ := 0

variable {I : PointReading} {t : SceneTree}

@[simp] theorem setKernel_isEmpty (X : Set Vec3) : (setKernel I).isEmpty X = decide (X = ∅) :=
  rfl

@[simp] theorem combineOperands_setKernel (kind : NodeKind) (operands : List (Set Vec3))
    (log : Array LogRecord) :
    (combineOperands (setKernel I) kind operands log).run = (I.combine kind operands, log) := by
  cases kind <;> rfl

/-- Every entry of the exact cache is the set of each drawn node with its key. -/
def ExactCache (I : PointReading) (t : SceneTree) (c : LruCache (Set Vec3)) : Prop :=
  c.Holds fun k X => ∀ i < t.nodes.size, t.Rendered i → t.key i = k → t.solidAt I i = some X

section Cache

variable {c : LruCache (Set Vec3)}

theorem exactCache_of_entries_nil (h : c.entries = []) : ExactCache I t c := by
  intro e mem
  simp [h] at mem

theorem ExactCache.get (hc : ExactCache I t c) (key : String) : ExactCache I t (c.get key).1 :=
  LruCache.Holds.get hc key

theorem solidAt_of_hit (hc : ExactCache I t c) {i : Nat} (hi : i < t.nodes.size)
    (hr : t.Rendered i) {X : Set Vec3} (hit : (c.get (t.key i)).2 = some X) :
    t.solidAt I i = some X :=
  LruCache.good_of_get hc hit i hi hr rfl

theorem ExactCache.insert (wf : t.WellFormed) (hu : t.Unambiguous) (hc : ExactCache I t c)
    {i : Nat} (hi : i < t.nodes.size) (hr : t.Rendered i) {X : Set Vec3}
    (hX : t.solidAt I i = some X) (weight : Nat) (log : Array LogRecord) :
    ExactCache I t ((c.insert (t.key i) X weight).run log).run.1 :=
  LruCache.Holds.insert hc
    (fun _ hj hrj hkey => (SceneTree.solidAt_eq_of_key_eq wf hu hj hi hrj hr hkey).trans hX)
    weight log

theorem renders_primitive (wf : t.WellFormed) (hu : t.Unambiguous) (hc : ExactCache I t c)
    {i : Nat} (hi : i < t.nodes.size) (hr : t.Rendered i) {p : Primitive}
    (hk : (t.node i).kind = .primitive p) (hne : ¬I.shape p = ∅) (weight : Nat)
    (log : Array LogRecord) :
    some (I.shape p) = t.solidAt I i ∧
      ExactCache I t ((c.insert (t.key i) (I.shape p) weight).run log).run.1 := by
  have hX : t.solidAt I i = some (I.shape p) := by
    rw [SceneTree.solidAt_primitive wf hi hr hk]
    exact ifNonempty_of_nonempty (Set.nonempty_iff_ne_empty.mpr hne)
  exact ⟨hX.symm, hc.insert wf hu hi hr hX weight log⟩

theorem renders_combined (wf : t.WellFormed) (hu : t.Unambiguous) (hc : ExactCache I t c)
    {i : Nat} (hi : i < t.nodes.size) (hr : t.Rendered i)
    (hk : ∀ p, ¬(t.node i).kind = .primitive p) {X : Set Vec3}
    (hX : I.combine (t.node i).kind ((t.node i).children.filterMap (t.solidAt I)) = some X)
    (weight : Nat) (log : Array LogRecord) :
    some X = t.solidAt I i ∧ ExactCache I t ((c.insert (t.key i) X weight).run log).run.1 := by
  have hsolid : t.solidAt I i = some X := (SceneTree.solidAt_combine wf hi hr hk).trans hX
  exact ⟨hsolid.symm, hc.insert wf hu hi hr hsolid weight log⟩

end Cache

theorem child_within (wf : t.WellFormed) {i fuel : Nat} (hi : i < t.nodes.size)
    (hfuel : t.nodes.size ≤ fuel + 1 + i) {pre suf : List Nat} {c : Nat}
    (split : (t.node i).children = pre ++ c :: suf) : c < t.nodes.size ∧ t.nodes.size ≤ fuel + c := by
  have mem : c ∈ (t.node i).children := by
    rw [split]
    exact List.mem_append_right _ List.mem_cons_self
  have hafter := wf.parent_lt_child i hi c mem
  exact ⟨wf.child_lt i hi c mem, by omega⟩

theorem renderNode_solid (wf : t.WellFormed) (hu : t.Unambiguous) (fuel : Nat) :
    ∀ i, ⦃fun r _ => ⌜i < t.nodes.size ∧ t.nodes.size - i ≤ fuel ∧ ExactCache I t r.cache⌝⦄
      renderNode (setKernel I) t fuel i
      ⦃post⟨fun g r _ => ⌜g = t.solidAt I i ∧ ExactCache I t r.cache⌝, fun _ _ _ => ⌜True⌝⟩⦄ := by
  induction fuel with
  | zero =>
    intro i
    mvcgen [renderNode]
    omega
  | succ fuel ih =>
    intro i
    mvcgen [renderNode, ih, advance, renderCheckpoint, triple_logged]
    case inv1 =>
      exact post⟨fun loop r _ => ⌜loop.2.toList = loop.fst.prefix.filterMap (t.solidAt I) ∧
        ExactCache I t r.cache⌝, fun _ _ _ => ⌜True⌝⟩
    all_goals simp_all +zetaDelta
    all_goals subst_vars
    · -- a disabled or background node renders to nothing
      exact (SceneTree.solidAt_of_not_rendered ‹_›).symm
    · -- a hit hands back the node's set
      obtain ⟨hi, -, hc⟩ := ‹i < t.nodes.size ∧ _ ∧ ExactCache I t _›
      exact ⟨(solidAt_of_hit hc hi ‹_› ‹_›).symm, hc.get _⟩
    · -- a primitive whose set is empty
      obtain ⟨hi, -, hc⟩ := ‹i < t.nodes.size ∧ _ ∧ ExactCache I t _›
      refine ⟨?_, hc.get _⟩
      rw [SceneTree.solidAt_primitive wf hi ‹_› ‹_›]
      exact (ifNonempty_eq_none_iff.mpr ‹_›).symm
    · -- a primitive whose set is not empty, stored under its key
      obtain ⟨hi, -, hc⟩ := ‹i < t.nodes.size ∧ _ ∧ ExactCache I t _›
      exact renders_primitive wf hu (hc.get _) hi ‹_› ‹_› ‹_› _ _
    · obtain ⟨hi, hfuel, -⟩ := ‹i < t.nodes.size ∧ _ ∧ ExactCache I t _›
      exact child_within wf hi hfuel ‹_›
    · -- a child with a set adds it to the operands
      simp [← ‹some _ = t.solidAt I _ ∧ _›.1]
    · -- a child without one adds nothing
      exact Option.eq_none_iff_forall_ne_some.mpr ‹_›
    · exact ‹_ ∧ _ ∧ ExactCache I t _›.2.2.get _
    · -- the children's sets combined, not empty, stored under the node's key
      obtain ⟨hi, -, -⟩ := ‹i < t.nodes.size ∧ _ ∧ ExactCache I t _›
      exact renders_combined wf hu ‹_ = _ ∧ ExactCache I t _›.2 hi ‹_› ‹_› ‹_› _ _
    · -- the children's sets combined to nothing
      obtain ⟨hi, -, -⟩ := ‹i < t.nodes.size ∧ _ ∧ ExactCache I t _›
      exact ((SceneTree.solidAt_combine wf hi ‹_› ‹_›).trans ‹_›).symm

theorem renderTree_solid (wf : t.WellFormed) (hu : t.Unambiguous) :
    Keeps (fun r : Rendering (Set Vec3) => ExactCache I t r.cache)
      (renderTree (setKernel I) t) (fun g => g = t.solidAt I t.root) := by
  apply Keeps.of_triple
  have root := renderNode_solid (I := I) wf hu (t.nodes.size + 1)
  mvcgen [renderTree, root, triple_logged]
  all_goals simp_all +zetaDelta [wf.root_lt]
  omega

end CsgPreview.Pipeline
