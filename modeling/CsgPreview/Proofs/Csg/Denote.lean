import Mathlib
import CsgPreview.Csg.Normalize
import CsgPreview.Proofs.Geometry.BoxPoints

/-!
The point set a term stands for, once every leaf stands for a set of points.

Operations are union, intersection and difference of sets; the empty term (`none`) stands for
the empty set. A term is *covered* when the box of each of its subterms holds the points that
subterm stands for. Building a term with `combineFlagged` keeps terms covered and means the
operation applied to what the operands mean: its pruning only drops operands whose boxes show
them empty or disjoint from the other. Every term built from leaves whose sets lie in their boxes
is covered.
-/

namespace CsgPreview.Geometry

def BooleanOp.onSets : BooleanOp → Set Vec3 → Set Vec3 → Set Vec3
  | .union, a, b => a ∪ b
  | .intersection, a, b => a ∩ b
  | .difference, a, b => a \ b

end CsgPreview.Geometry

namespace CsgPreview.Csg

open CsgPreview.Geometry

def Term.denote (S : Leaf → Set Vec3) : Term → Set Vec3
  | .leaf l _ _ => S l
  | .op o l r _ _ _ => o.onSets (l.denote S) (r.denote S)

def optDenote (S : Leaf → Set Vec3) : Option Term → Set Vec3
  | none => ∅
  | some t => t.denote S

/-- Each box of the term holds the points its subterm stands for. -/
def Term.Covered (S : Leaf → Set Vec3) : Term → Prop
  | .leaf l b _ => S l ⊆ b.points
  | .op o l r b _ _ => l.Covered S ∧ r.Covered S ∧ o.onSets (l.denote S) (r.denote S) ⊆ b.points

def OptCovered (S : Leaf → Set Vec3) : Option Term → Prop
  | none => True
  | some t => t.Covered S

variable {S : Leaf → Set Vec3}

@[simp] theorem optDenote_none : optDenote S none = ∅ := rfl

@[simp] theorem optDenote_some (t : Term) : optDenote S (some t) = t.denote S := rfl

@[simp] theorem optCovered_none : OptCovered S none := trivial

@[simp] theorem optCovered_some (t : Term) : OptCovered S (some t) ↔ t.Covered S := Iff.rfl

@[simp] theorem Term.denote_op (o : BooleanOp) (l r : Term) (b : Box) (n : Nat) (f : Flags) :
    (Term.op o l r b n f).denote S = o.onSets (l.denote S) (r.denote S) := rfl

@[simp] theorem Term.denote_withFlags (t : Term) (f : Flags) :
    (t.withFlags f).denote S = t.denote S := by
  cases t <;> rfl

theorem Term.Covered.subset_box {t : Term} (h : t.Covered S) : t.denote S ⊆ t.box.points := by
  cases t with
  | leaf l b g => exact h
  | op o l r b n g => exact h.2.2

theorem Term.Covered.withFlags {t : Term} (h : t.Covered S) (f : Flags) :
    (t.withFlags f).Covered S := by
  cases t <;> exact h

theorem Term.Covered.left {o : BooleanOp} {l r : Term} {b : Box} {n : Nat} {f : Flags}
    (h : (Term.op o l r b n f).Covered S) : l.Covered S := h.1

theorem Term.Covered.right {o : BooleanOp} {l r : Term} {b : Box} {n : Nat} {f : Flags}
    (h : (Term.op o l r b n f).Covered S) : r.Covered S := h.2.1

theorem Term.Covered.opNode {l r : Term} (hl : l.Covered S) (hr : r.Covered S) (o : BooleanOp)
    (f : Flags) : (Term.opNode o l r f).Covered S := by
  refine ⟨hl, hr, ?_⟩
  intro p hp
  have hlp := hl.subset_box
  have hrp := hr.subset_box
  cases o with
  | union =>
    exact hp.elim (fun h => Box.mem_merge_left (hlp h)) (fun h => Box.mem_merge_right (hrp h))
  | intersection => exact Box.mem_intersection (hlp hp.1) (hrp hp.2)
  | difference => exact hlp hp.1

theorem OptCovered.combineFlagged {l r : Option Term} (hl : OptCovered S l)
    (hr : OptCovered S r) (o : BooleanOp) (f : Flags) :
    OptCovered S (Term.combineFlagged o l r f) := by
  cases l with
  | none => cases o <;> cases r <;> simp_all [Term.combineFlagged]
  | some l =>
    cases r with
    | none => cases o <;> simp_all [Term.combineFlagged]
    | some r =>
      have hnode : (Term.opNode o l r f).Covered S := Term.Covered.opNode hl hr o f
      cases o <;> by_cases hit : l.box.intersects r.box <;> simp_all [Term.combineFlagged]

theorem optDenote_combineFlagged {l r : Option Term} (hl : OptCovered S l)
    (hr : OptCovered S r) (o : BooleanOp) (f : Flags) :
    optDenote S (Term.combineFlagged o l r f) = o.onSets (optDenote S l) (optDenote S r) := by
  cases l with
  | none => cases o <;> cases r <;> simp [Term.combineFlagged, BooleanOp.onSets]
  | some l =>
    cases r with
    | none => cases o <;> simp [Term.combineFlagged, BooleanOp.onSets]
    | some r =>
      by_cases hit : l.box.intersects r.box
      · cases o <;> simp [Term.combineFlagged, hit, Term.opNode]
      · -- pruned: the boxes do not meet, so neither do the sets
        have hdisjoint : Disjoint (l.denote S) (r.denote S) :=
          Box.disjoint_of_not_intersects (optCovered_some l |>.mp hl).subset_box
            (optCovered_some r |>.mp hr).subset_box (by simpa using hit)
        cases o <;> simp [Term.combineFlagged, hit, Term.opNode, BooleanOp.onSets,
          hdisjoint.inter_eq, hdisjoint.sdiff_eq_left]

theorem OptCovered.rebuild {node : Term} {l r : Option Term} (hnode : node.Covered S)
    (hl : OptCovered S l) (hr : OptCovered S r) (changed : Bool) :
    OptCovered S (rebuild node l r changed).1 := by
  unfold Csg.rebuild
  split
  · split
    · split <;> simp_all [OptCovered.combineFlagged]
    · exact OptCovered.combineFlagged hl hr _ _
  · exact hnode

theorem optDenote_rebuild {o : BooleanOp} {l r : Term} {b : Box} {n : Nat} {f : Flags}
    {l' r' : Option Term} {changed : Bool} (hl : OptCovered S l') (hr : OptCovered S r')
    (hsame : changed = false → l' = some l ∧ r' = some r) :
    optDenote S (rebuild (.op o l r b n f) l' r' changed).1 =
      o.onSets (optDenote S l') (optDenote S r') := by
  cases changed with
  | false =>
    obtain ⟨rfl, rfl⟩ := hsame rfl
    rfl
  | true =>
    have hcombined := optDenote_combineFlagged hl hr o f
    cases l' <;> cases r' <;> simpa [rebuild] using hcombined

/-- Terms as the term constructors make them: leaves, operations combined with pruning, flags
added, and nodes rebuilt over new operands. -/
inductive Built : Option Term → Prop
  | leaf (leaf : Leaf) : Built (Term.ofLeaf leaf)
  | combine {l r : Option Term} (o : BooleanOp) (f : Flags) :
      Built l → Built r → Built (Term.combineFlagged o l r f)
  | withFlags {t : Term} (f : Flags) : Built (some t) → Built (some (t.withFlags f))
  | rebuild {node : Term} {l r : Option Term} (changed : Bool) :
      Built (some node) → Built l → Built r → Built (rebuild node l r changed).1

/-- Every leaf's set lies in the box its leaf term gets. -/
def LeavesInBoxes (S : Leaf → Set Vec3) : Prop :=
  ∀ leaf : Leaf, S leaf ⊆ (leaf.geometry.box.transformed leaf.matrix).points

theorem Built.optCovered (hS : LeavesInBoxes S) {t : Option Term} (h : Built t) :
    OptCovered S t := by
  induction h with
  | leaf leaf =>
    unfold Term.ofLeaf
    split
    · trivial
    · exact hS leaf
  | combine o f _ _ hl hr => exact OptCovered.combineFlagged hl hr o f
  | withFlags f _ ht => exact Term.Covered.withFlags ht f
  | rebuild changed _ _ _ hnode hl hr => exact OptCovered.rebuild hnode hl hr changed

end CsgPreview.Csg
