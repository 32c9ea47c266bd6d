import CsgPreview.Proofs.Csg.Denote
import CsgPreview.Proofs.Csg.PassRelation

/-!
Normalization keeps the meaning of a term.

Each of the nine rules is a set identity (difference and intersection distribute over union,
intersections reassociate, a difference of a difference splits), and `combineFlagged` means the
operation it builds, so a rule gives back a covered term meaning what the node meant. Keeping
coverage and meaning is closed under the steps of a pass, so it holds of every pass and of
normalization as a whole, including when the budget stops it.
-/

namespace CsgPreview.Csg

open CsgPreview.Geometry

variable {S : Leaf → Set Vec3}

theorem Rule.optCovered {node : Term} {r : Option Term} (h : Rule node r)
    (hnode : node.Covered S) : OptCovered S r := by
  cases h <;> simp_all [Term.Covered, OptCovered.combineFlagged]

theorem Rule.optDenote_eq {node : Term} {r : Option Term} (h : Rule node r)
    (hnode : node.Covered S) : optDenote S r = node.denote S := by
  cases h <;> simp_all [Term.Covered, OptCovered.combineFlagged, optDenote_combineFlagged,
    BooleanOp.onSets]
  -- what is left of each rule is the set identity it rests on
  · exact Set.sdiff_sdiff
  · exact (Set.inter_union_distrib_left _ _ _).symm
  · exact Set.sdiff_inter.symm
  · exact Set.inter_assoc _ _ _
  · exact Set.sdiff_sdiff_right.symm
  · exact Set.inter_sdiff_assoc _ _ _
  · exact Set.inter_sdiff_right_comm
  · exact Set.union_sdiff_distrib.symm
  · exact (Set.union_inter_distrib_right _ _ _).symm

variable (S) in
/-- A result keeps the meaning of a term: when the term is covered, the result is covered and
stands for the same points. -/
def SameMeaning (node : Term) (result : Option Term) : Prop :=
  node.Covered S → OptCovered S result ∧ optDenote S result = node.denote S

theorem sameMeaning_passRelation : PassRelation (SameMeaning S) where
  refl t hcovered := ⟨hcovered, rfl⟩
  trans hab hbc hcovered :=
    have ⟨hb, eb⟩ := hab hcovered
    have ⟨hc, ec⟩ := hbc hb
    ⟨hc, ec.trans eb⟩
  rewrite found hcovered :=
    ⟨(Rule.of_rewrite found).optCovered hcovered, (Rule.of_rewrite found).optDenote_eq hcovered⟩
  left step hl hcovered := by
    obtain ⟨hl', el'⟩ := hl hcovered.left
    have hr : OptCovered S (some _) := hcovered.right
    refine ⟨OptCovered.rebuild hcovered hl' hr _, ?_⟩
    rw [optDenote_rebuild hl' hr fun unchanged => ⟨by subst unchanged; exact step, rfl⟩, el']
    rfl
  right step hr hcovered := by
    obtain ⟨hr', er'⟩ := hr hcovered.right
    have hl : OptCovered S (some _) := hcovered.left
    refine ⟨OptCovered.rebuild hcovered hl hr' _, ?_⟩
    rw [optDenote_rebuild hl hr' fun unchanged => ⟨rfl, by subst unchanged; exact step⟩, er']
    rfl

/-- Normalizing a term built from leaves whose sets lie in their boxes succeeds, and the result
stands for the same points, whether the passes settled or the budget stopped them. -/
theorem normalize_preserves_denote (hS : LeavesInBoxes S) {t : Term} (ht : Built (some t))
    (budget : Nat) (log : Array LogRecord) :
    ∃ n log', (normalize budget {} t).run.run log = (.ok n, log') ∧
      optDenote S n.term = t.denote S := by
  obtain ⟨n, log', run, hn⟩ := sameMeaning_passRelation.normalizePasses_uncancelled budget t 0 true log
  exact ⟨n, log', run, (hn (ht.optCovered hS)).2⟩

theorem Built.leafTerm {leaf : Leaf} (nonempty : leaf.geometry.isEmpty = false) :
    Built (some (.leaf leaf (leaf.geometry.box.transformed leaf.matrix) {})) := by
  have h := Built.leaf leaf
  rwa [Term.ofLeaf, if_neg (by simp [nonempty])] at h

theorem Built.opNode {l r : Term} (hl : Built (some l)) (hr : Built (some r)) (o : BooleanOp)
    (f : Flags) (meet : l.box.intersects r.box = true) : Built (some (Term.opNode o l r f)) := by
  have h := Built.combine o f hl hr
  cases o <;> simpa [Term.combineFlagged, meet] using h

def pointTerm (label : String) (index : Nat) : Term :=
  let leaf : Leaf := ⟨.mesh ⟨#[default], #[default]⟩, Mat4.identity, none, label, index⟩
  .leaf leaf (leaf.geometry.box.transformed Mat4.identity) {}

/-- A difference from a union of leaves whose boxes meet, which the first pass rewrites into a
chain of differences. -/
theorem normalize_preserves_denote_differenceOfUnion :
    let S : Leaf → Set Vec3 := fun l => (l.geometry.box.transformed l.matrix).points
    let t := Term.opNode .difference (pointTerm "a" 0)
      (Term.opNode .union (pointTerm "b" 1) (pointTerm "c" 2) {}) {}
    (rewrite t).isSome ∧ LeavesInBoxes S ∧ Built (some t) ∧
      ∃ n log', (normalize 16 {} t).run.run #[] = (.ok n, log') ∧
        optDenote S n.term = t.denote S := by
  intro S t
  have hS : LeavesInBoxes S := fun _ => subset_rfl
  have point (label : String) (index : Nat) : Built (some (pointTerm label index)) :=
    Built.leafTerm rfl
  have union : Built (some (Term.opNode .union (pointTerm "b" 1) (pointTerm "c" 2) {})) :=
    (point "b" 1).opNode (point "c" 2) .union {} (by decide +kernel)
  have ht : Built (some t) := (point "a" 0).opNode union .difference {} (by decide +kernel)
  exact ⟨by decide +kernel, hS, ht, normalize_preserves_denote hS ht 16 #[]⟩

end CsgPreview.Csg
