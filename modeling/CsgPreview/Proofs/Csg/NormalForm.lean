import Mathlib
import CsgPreview.Csg.Normalize

/-!
The normal form normalization reaches, and why it is a fixed point.

A term is in normal form when no rule applies at any of its nodes: every difference or
intersection has a leaf on its right and no union on its left, and no intersection has a
difference on its left, so unions sit above products and within a product the intersections
come before the differences. A pass that the budget did not stop and that changed nothing has
visited every node and found no rule to apply, so its term is in normal form; and a pass over a
term in normal form applies no rule, so it cannot reach the budget and gives the term back.
Normalization ends on such a pass, so what it returns, normalized again with any budget, comes
back unchanged after one pass.
-/

namespace CsgPreview.Csg

open CsgPreview.Geometry

def Term.subterms : Term → List Term
  | .leaf l b f => [.leaf l b f]
  | .op o l r b n f => .op o l r b n f :: (l.subterms ++ r.subterms)

def Term.nodeNormal : Term → Bool
  | .leaf .. => true
  | .op .union .. => true
  | .op .difference l r .. => r.isLeaf && l.opKind? != some .union
  | .op .intersection l r .. =>
    r.isLeaf && l.opKind? != some .union && l.opKind? != some .difference

def Term.isNormal (t : Term) : Bool := t.subterms.all Term.nodeNormal

@[simp] theorem Term.isNormal_leaf (l : Leaf) (b : Box) (f : Flags) :
    (Term.leaf l b f).isNormal = true := by
  simp [isNormal, subterms, nodeNormal]

@[simp] theorem Term.isNormal_op (o : BooleanOp) (l r : Term) (b : Box) (n : Nat) (f : Flags) :
    (Term.op o l r b n f).isNormal =
      ((Term.op o l r b n f).nodeNormal && l.isNormal && r.isNormal) := by
  simp [isNormal, subterms, Bool.and_assoc]

theorem Term.nodeNormal_eq_true_iff (t : Term) : t.nodeNormal = true ↔ rewrite t = none := by
  cases t with
  | leaf => simp [nodeNormal, rewrite]
  | op o l r b n f =>
    rw [rewrite_op_eq_none_iff]
    cases o <;> simp [nodeNormal, and_assoc]

theorem rewriteAt_of_rewrite_eq_none {st : PassState} {node : Term} (h : rewrite node = none) :
    rewriteAt st node = .keep st node := by
  fun_induction rewriteAt st node
  case case1 => rfl
  -- every other case starts from a rule that applies
  all_goals exact absurd ‹rewrite _ = some _› (by simp [h])

theorem Term.isNormal_of_isLeaf {t : Term} (h : t.isLeaf = true) : t.isNormal = true := by
  cases t with
  | leaf => simp
  | op => simp [isLeaf] at h

theorem Term.rewrite_eq_none_of_isNormal {t : Term} (h : t.isNormal = true) : rewrite t = none := by
  cases t with
  | leaf => rfl
  | op o l r b n f =>
    simp only [isNormal_op, Bool.and_eq_true] at h
    exact (nodeNormal_eq_true_iff _).mp h.1.1

theorem PassResult.term_eq_of_unchanged {node : Term} (r : PassResult node)
    (h : r.changed = false) : r.term = some node := by
  have step := r.step
  rw [h] at step
  exact step

theorem rebuild_changed_eq_false {o : BooleanOp} {l r : Term} {b : Box} {n : Nat} {f : Flags}
    {l' r' : Option Term} {changed : Bool}
    (h : (rebuild (.op o l r b n f) l' r' changed).2 = false) : changed = false := by
  cases changed with
  | false => rfl
  | true => cases l' <;> cases r' <;> simp [rebuild] at h

theorem runPass_settled_isNormal (st : PassState) (node : Term)
    (running : (runPass st node).state.aborted = false)
    (unchanged : (runPass st node).changed = false) : node.isNormal = true := by
  fun_induction runPass st node with
  | case1 st node stop =>
    -- the pass did not run, and the budget had not stopped it: the node is a leaf
    simp only [PassResult.keep] at running
    simp only [running, Bool.false_or] at stop
    exact Term.isNormal_of_isLeaf stop
  | case2 st node _ r emptied =>
    have := r.term_eq_of_unchanged unchanged
    simp [Option.attach_eq_none_iff.mp emptied] at this
  | case3 st node _ r _ _ _ aborted => simp [aborted] at running
  | case4 st node _ r _ leaf box flags found =>
    cases Option.some.inj ((r.term_eq_of_unchanged unchanged).symm.trans found)
    simp
  | case5 st node _ r _ o left right b n f _ _ _ l leftAborted => simp [leftAborted] at running
  | case6 => simp at unchanged
  | case7 st node _ r _ o left right b n f _ hcurrent _ l _ rebuilt leaf box flags found' =>
    simp only [Bool.or_eq_false_iff] at unchanged
    have := rebuilt.term_eq_of_unchanged unchanged.2
    simp [found'] at this
  | case8 => simp [PassResult.lighter] at unchanged
  | case9 st node _ r _ o left right b n f _ _ _ l _ rebuilt o' left' right' b' n' f' _ _ _ _ _
      rr rightAborted => simp [rightAborted] at running
  | case10 st node _ r notAborted o left right b n f found hcurrent _ l leftRunning rebuilt
      o' left' right' b' n' f' found' _ _ _ _ rr rightRunning last _ _ ihLeft _ ihRight _ =>
    simp only [Bool.or_eq_false_iff] at unchanged
    obtain ⟨⟨hr, hrebuilt⟩, hlast⟩ := unchanged
    cases Option.some.inj ((r.term_eq_of_unchanged hr).symm.trans found)
    cases (rebuilt.term_eq_of_unchanged hrebuilt).symm.trans found'
    have hleft : left.isNormal = true :=
      ihLeft (by simpa using leftRunning) (rebuild_changed_eq_false hrebuilt)
    have hright : right.isNormal = true :=
      ihRight (by simpa using rightRunning) (rebuild_changed_eq_false hlast)
    have hsettled := rewriteAt_settled st _ (by simpa using notAborted) found
    simp [(Term.nodeNormal_eq_true_iff _).mpr hsettled, hleft, hright]

@[ext] theorem PassResult.ext {node : Term} {r s : PassResult node} (hstate : r.state = s.state)
    (hterm : r.term = s.term) (hchanged : r.changed = s.changed) : r = s := by
  cases r
  cases s
  simp_all

theorem rewriteAt_of_isNormal {st : PassState} {node : Term} (normal : node.isNormal = true) :
    rewriteAt st node = .keep st node :=
  rewriteAt_of_rewrite_eq_none (Term.rewrite_eq_none_of_isNormal normal)

theorem runPass_of_isNormal (st : PassState) (node : Term) (running : st.aborted = false)
    (normal : node.isNormal = true) : runPass st node = .keep st node := by
  -- a pass over a normal term stops at once, finds a leaf, or passes over both operands; every
  -- other path needs a rewrite, an emptied operand or the budget, and leads to a contradiction
  fun_induction runPass st node with
  | case1 => rfl
  | case2 st node _ r emptied =>
    have hr : r = .keep st node := rewriteAt_of_isNormal normal
    simp [hr, PassResult.keep] at emptied
  | case3 st node _ r _ _ _ aborted =>
    have hr : r = .keep st node := rewriteAt_of_isNormal normal
    simp [hr, PassResult.keep, running] at aborted
  | case4 => exact rewriteAt_of_isNormal normal
  | case5 st node _ r _ o left right b n f found _ _ l leftAborted _ _ ihLeft =>
    have hr : r = .keep st node := rewriteAt_of_isNormal normal
    obtain rfl : node = .op o left right b n f := by simpa [hr, PassResult.keep] using found
    have hleft : l = .keep r.state left :=
      ihLeft (by simp [hr, PassResult.keep, running]) (by simp_all)
    simp [hleft, hr, PassResult.keep, running] at leftAborted
  | case6 st node _ r _ o left right b n f found _ _ l _ rebuilt emptied _ _ ihLeft =>
    have hr : r = .keep st node := rewriteAt_of_isNormal normal
    obtain rfl : node = .op o left right b n f := by simpa [hr, PassResult.keep] using found
    have hleft : l = .keep r.state left :=
      ihLeft (by simp [hr, PassResult.keep, running]) (by simp_all)
    simp [rebuilt, hleft, PassResult.overLeft, PassResult.keep, rebuild] at emptied
  | case7 st node _ r _ o left right b n f found _ _ l _ rebuilt leaf box flags found' _ _ _
      ihLeft _ =>
    have hr : r = .keep st node := rewriteAt_of_isNormal normal
    obtain rfl : node = .op o left right b n f := by simpa [hr, PassResult.keep] using found
    have hleft : l = .keep r.state left :=
      ihLeft (by simp [hr, PassResult.keep, running]) (by simp_all)
    simp [rebuilt, hleft, PassResult.overLeft, PassResult.keep, rebuild] at found'
  | case8 st node _ r _ o left right b n f found _ _ l _ rebuilt o' left' right' b' n' f' found' _
      _ again _ _ _ ihLeft _ _ =>
    have hr : r = .keep st node := rewriteAt_of_isNormal normal
    obtain rfl : node = .op o left right b n f := by simpa [hr, PassResult.keep] using found
    have hleft : l = .keep r.state left :=
      ihLeft (by simp [hr, PassResult.keep, running]) (by simp_all)
    have hrebuilt : rebuilt.term = some (.op o left right b n f) := by
      simp [rebuilt, hleft, PassResult.overLeft, PassResult.keep, rebuild]
    cases hrebuilt.symm.trans found'
    simp [revisit_eq_false_of_rewrite_eq_none (Term.rewrite_eq_none_of_isNormal normal)] at again
  | case9 st node _ r _ o left right b n f found _ _ l _ rebuilt o' left' right' b' n' f' found' _
      _ _ _ rr rightAborted _ _ ihLeft _ ihRight =>
    have hr : r = .keep st node := rewriteAt_of_isNormal normal
    obtain rfl : node = .op o left right b n f := by simpa [hr, PassResult.keep] using found
    have hleft : l = .keep r.state left :=
      ihLeft (by simp [hr, PassResult.keep, running]) (by simp_all)
    have hrebuilt : rebuilt.term = some (.op o left right b n f) := by
      simp [rebuilt, hleft, PassResult.overLeft, PassResult.keep, rebuild]
    cases hrebuilt.symm.trans found'
    have hright : rr = .keep l.state right :=
      ihRight (by simp [hleft, hr, PassResult.keep, running]) (by simp_all)
    simp [hright, hleft, hr, PassResult.keep, running] at rightAborted
  | case10 st node _ r _ o left right b n f found _ _ l _ rebuilt o' left' right' b' n' f' found'
      _ _ _ _ rr _ last _ _ ihLeft _ ihRight _ =>
    have hr : r = .keep st node := rewriteAt_of_isNormal normal
    obtain rfl : node = .op o left right b n f := by simpa [hr, PassResult.keep] using found
    have hleft : l = .keep r.state left :=
      ihLeft (by simp [hr, PassResult.keep, running]) (by simp_all)
    have hrebuilt : rebuilt = .keep l.state (.op o left right b n f) := by
      ext <;> simp [rebuilt, hleft, PassResult.overLeft, PassResult.keep, rebuild]
    cases (congrArg PassResult.term hrebuilt).symm.trans found'
    have hright : rr = .keep l.state right :=
      ihRight (by simp [hleft, hr, PassResult.keep, running]) (by simp_all)
    ext <;> simp [last, hright, hrebuilt, hleft, hr, PassResult.overRight, PassResult.keep, rebuild]

theorem normalizePasses_of_isNormal (budget : Nat) {t : Term} (normal : t.isNormal = true)
    (passes : Nat) (unchanged : Bool) (log : Array LogRecord) :
    ∃ log', (normalizePasses budget {} t passes unchanged).run.run log =
      (.ok ⟨some t, false, passes + 1, unchanged⟩, log') := by
  have hpass := runPass_of_isNormal ⟨budget, t.leafCount, false⟩ t rfl normal
  fun_induction normalizePasses budget {} t passes unchanged with
  | case1 _ _ _ seen => simp at seen
  | case2 t _ _ _ r _ aborted => simp [r, hpass, PassResult.keep] at aborted
  | case3 t _ _ _ r _ _ emptied => simp [r, hpass, PassResult.keep] at emptied
  | case4 t _ _ _ r _ _ _ _ _ changed => simp [r, hpass, PassResult.keep] at changed
  | case5 => exact ⟨_, rfl⟩

theorem normalizePasses_settled {budget : Nat} {cancel : Pipeline.CancelToken} {current : Term}
    {passes : Nat} {unchanged : Bool} {log log' : Array LogRecord} {n : Normalized} {t : Term}
    (run : (normalizePasses budget cancel current passes unchanged).run.run log = (.ok n, log'))
    (running : n.aborted = false) (found : n.term = some t) :
    (runPass ⟨budget, t.leafCount, false⟩ t).state.aborted = false ∧
      (runPass ⟨budget, t.leafCount, false⟩ t).changed = false := by
  fun_induction normalizePasses budget cancel current passes unchanged generalizing log with
  | case1 => cases (Prod.mk.inj run).1
  | case2 =>
    cases Except.ok.inj (Prod.mk.inj run).1
    cases running
  | case3 =>
    cases Except.ok.inj (Prod.mk.inj run).1
    cases found
  | case4 =>
    rename_i ih
    exact ih run
  | case5 =>
    rename_i notAborted _ _ _ unchangedPass
    cases Except.ok.inj (Prod.mk.inj run).1
    cases found
    exact ⟨by simpa using notAborted, by simpa using unchangedPass⟩

/-- A normalization that returns a term without reaching the budget returns it in normal form,
and normalizing that term again, with any budget, gives it back unchanged after one pass. -/
theorem normalize_isNormal_fixpoint {budget : Nat} {cancel : Pipeline.CancelToken} {t t' : Term}
    {log log' : Array LogRecord} {n : Normalized}
    (run : (normalize budget cancel t).run.run log = (.ok n, log'))
    (settled : n.aborted = false) (found : n.term = some t') :
    t'.isNormal = true ∧ ∀ (budget' : Nat) (log₂ : Array LogRecord), ∃ log₃,
      (normalize budget' {} t').run.run log₂ = (.ok ⟨some t', false, 1, true⟩, log₃) := by
  obtain ⟨running, unchanged⟩ := normalizePasses_settled run settled found
  have normal := runPass_settled_isNormal _ t' running unchanged
  exact ⟨normal, fun budget' log₂ => normalizePasses_of_isNormal budget' normal 0 true log₂⟩

/-- A difference of two leaves is already in normal form. -/
theorem normalize_difference_isNormal_fixpoint :
    let t : Term := .op .difference (.leaf default default {}) (.leaf default default {}) default 2 {}
    ∃ n log', (normalize 8 {} t).run.run #[] = (.ok n, log') ∧ n.aborted = false ∧
      n.term = some t ∧ (t.isNormal = true ∧ ∀ (budget' : Nat) (log₂ : Array LogRecord), ∃ log₃,
        (normalize budget' {} t).run.run log₂ = (.ok ⟨some t, false, 1, true⟩, log₃)) := by
  intro t
  obtain ⟨log', run⟩ := normalizePasses_of_isNormal 8 (t := t) (by decide) 0 true #[]
  exact ⟨_, log', run, rfl, rfl, normalize_isNormal_fixpoint run rfl rfl⟩

end CsgPreview.Csg
