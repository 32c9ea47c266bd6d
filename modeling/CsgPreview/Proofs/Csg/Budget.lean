import Mathlib
import CsgPreview.Proofs.Csg.Denote
import CsgPreview.Proofs.Csg.PassRelation

/-!
What normalization costs: how many passes it makes and how many leaves it gives back.

Every pass that changes a term gives back a lighter one (`Csg.Rewrite` weighs terms), and a term
weighs at least two, so normalization ends after fewer passes than its term weighs. The rewriting
at one node and the pass over a term end for the same reason: each is defined by recursion on
the weight of the node it works on.

A pass counts leaves as it goes. It starts from the leaves of its term, and each rule it applies
moves the counter by the leaves the rule adds or removes; pruning, which only removes leaves, is
not counted. So at every node the pass rewrites, the counter covers the leaves of that node and
of the operands the pass has set aside on its way down to it: it never falls below the leaves of
what the pass would give back if it stopped there, and taking the node's leaves off it never has
to be cut off at zero. A rule only goes through when the counter stays within the budget, so a
pass that the budget does not stop gives back no more leaves than its term had or the budget
allows, and neither does normalization as a whole.
-/

namespace CsgPreview.Csg

open CsgPreview.Geometry

/-! ### The number of passes -/

theorem normalizePasses_passes_lt (budget : Nat) (cancel : Pipeline.CancelToken) (current : Term)
    (passes : Nat) (unchanged : Bool) (log : Array LogRecord) :
    ∃ r log', (normalizePasses budget cancel current passes unchanged).run.run log = (r, log') ∧
      ((cancel.arrival.isSome ∧ r = .error .cancelled) ∨
        ∃ n, r = .ok n ∧ passes < n.passes ∧ n.passes < passes + current.weight) := by
  have heavy := current.two_le_weight
  fun_induction normalizePasses budget cancel current passes unchanged generalizing log with
  | case1 _ _ _ seen =>
    exact ⟨_, _, rfl, .inl ⟨by simpa using Pipeline.CancelToken.arrival_isSome_of_isCancelled seen,
      rfl⟩⟩
  -- a pass that the budget stopped, that emptied the term or that changed nothing is the last
  | case2 current passes =>
    exact ⟨_, _, rfl, .inr ⟨_, rfl, Nat.lt_succ_self passes, by simp +zetaDelta; omega⟩⟩
  | case3 current passes =>
    exact ⟨_, _, rfl, .inr ⟨_, rfl, Nat.lt_succ_self passes, by simp +zetaDelta; omega⟩⟩
  | case4 current passes _ _ r _ _ next found _ _ lighter ih =>
    -- the pass made the term lighter, and the passes after it are fewer than the new weight
    obtain ⟨r, log', run, ended⟩ := ih log next.two_le_weight
    refine ⟨r, log', run, ended.imp id ?_⟩
    rintro ⟨n, rfl, more, fewer⟩
    exact ⟨n, rfl, by omega, by omega⟩
  | case5 current passes =>
    exact ⟨_, _, rfl, .inr ⟨_, rfl, Nat.lt_succ_self passes, by simp +zetaDelta; omega⟩⟩

/-- Normalization ends, whatever the term, the budget and the cancel token: cancelled before it
starts, it fails at once; with no cancel coming, it returns after at least one pass and fewer
passes than the term weighs; and wherever a cancel comes, it either fails with the cancel or
returns so. -/
theorem normalize_terminates (budget : Nat) (t : Term) (log : Array LogRecord) :
    (normalize budget .cancelled t).run.run log = (.error .cancelled, log) ∧
      (∃ n log', (normalize budget {} t).run.run log = (.ok n, log') ∧
        0 < n.passes ∧ n.passes < t.weight) ∧
      ∀ cancel : Pipeline.CancelToken, ∃ log',
        (normalize budget cancel t).run.run log = (.error .cancelled, log') ∨
          ∃ n, (normalize budget cancel t).run.run log = (.ok n, log') ∧
            0 < n.passes ∧ n.passes < t.weight := by
  refine ⟨?cancelled, ?running, ?anyToken⟩
  case cancelled =>
    rw [normalize, normalizePasses]
    rfl
  case running =>
    obtain ⟨r, log', run, ended⟩ := normalizePasses_passes_lt budget {} t 0 true log
    rcases ended with ⟨comes, -⟩ | ⟨n, rfl, more, fewer⟩
    · simp at comes
    · exact ⟨n, log', run, more, by omega⟩
  case anyToken =>
    intro cancel
    obtain ⟨r, log', run, ended⟩ := normalizePasses_passes_lt budget cancel t 0 true log
    rcases ended with ⟨-, rfl⟩ | ⟨n, rfl, more, fewer⟩
    · exact ⟨log', .inl run⟩
    · exact ⟨log', .inr ⟨n, run, more, by omega⟩⟩

/-! ### Leaf counts as the constructors keep them -/

def optLeafCount : Option Term → Nat
  | none => 0
  | some t => t.leafCount

@[simp] theorem optLeafCount_none : optLeafCount none = 0 := rfl

@[simp] theorem optLeafCount_some (t : Term) : optLeafCount (some t) = t.leafCount := rfl

theorem Normalized.leafCount_eq (n : Normalized) : n.leafCount = optLeafCount n.term := by
  cases h : n.term <;> simp [Normalized.leafCount, h]

/-- Every operation node counts the leaves of both its operands, as the constructors count
them. -/
def Term.Counted : Term → Prop
  | .leaf .. => True
  | .op _ l r _ n _ => l.Counted ∧ r.Counted ∧ n = l.leafCount + r.leafCount

/-- `Term.Counted` of a term that may be the empty set. -/
def OptCounted : Option Term → Prop
  | none => True
  | some t => t.Counted

@[simp] theorem optCounted_none : OptCounted none := trivial

@[simp] theorem optCounted_some (t : Term) : OptCounted (some t) ↔ t.Counted := Iff.rfl

@[simp] theorem Term.counted_op (o : BooleanOp) (l r : Term) (b : Box) (n : Nat) (f : Flags) :
    (Term.op o l r b n f).Counted ↔ l.Counted ∧ r.Counted ∧ n = l.leafCount + r.leafCount :=
  Iff.rfl

@[simp] theorem Term.leafCount_op (o : BooleanOp) (l r : Term) (b : Box) (n : Nat) (f : Flags) :
    (Term.op o l r b n f).leafCount = n := rfl

@[simp] theorem Term.leafCount_opNode (o : BooleanOp) (l r : Term) (f : Flags) :
    (Term.opNode o l r f).leafCount = l.leafCount + r.leafCount := rfl

theorem Term.Counted.opNode {l r : Term} (hl : l.Counted) (hr : r.Counted) (o : BooleanOp)
    (f : Flags) : (Term.opNode o l r f).Counted :=
  ⟨hl, hr, rfl⟩

theorem Term.Counted.withFlags {t : Term} (h : t.Counted) (f : Flags) : (t.withFlags f).Counted := by
  cases t with
  | leaf => trivial
  | op => exact h

theorem OptCounted.combineFlagged {l r : Option Term} (hl : OptCounted l) (hr : OptCounted r)
    (o : BooleanOp) (f : Flags) : OptCounted (Term.combineFlagged o l r f) := by
  cases l with
  | none => cases o <;> cases r <;> simp_all [Term.combineFlagged]
  | some l =>
    cases r with
    | none => cases o <;> simp_all [Term.combineFlagged]
    | some r =>
      have hnode : (Term.opNode o l r f).Counted := Term.Counted.opNode hl hr o f
      cases o <;> by_cases hit : l.box.intersects r.box <;> simp_all [Term.combineFlagged]

theorem optLeafCount_combineFlagged_le (o : BooleanOp) (l r : Option Term) (f : Flags) :
    optLeafCount (Term.combineFlagged o l r f) ≤ optLeafCount l + optLeafCount r := by
  cases l with
  | none => cases o <;> cases r <;> simp [Term.combineFlagged]
  | some l =>
    cases r with
    | none => cases o <;> simp [Term.combineFlagged]
    | some r => cases o <;> by_cases hit : l.box.intersects r.box <;> simp [Term.combineFlagged, hit]

theorem OptCounted.rebuild {node : Term} {l r : Option Term} (hnode : node.Counted)
    (hl : OptCounted l) (hr : OptCounted r) (changed : Bool) :
    OptCounted (rebuild node l r changed).1 := by
  unfold Csg.rebuild
  split
  · split
    · split <;> simp_all [OptCounted.combineFlagged]
    · exact OptCounted.combineFlagged hl hr _ _
  · exact hnode

theorem optLeafCount_rebuild_left_le {o : BooleanOp} {l r : Term} {b : Box} {n : Nat} {f : Flags}
    {l' : Option Term} {changed : Bool} (hnode : (Term.op o l r b n f).Counted)
    (step : PassStep l l' changed) :
    optLeafCount (rebuild (.op o l r b n f) l' (some r) changed).1 ≤
      optLeafCount l' + r.leafCount := by
  cases changed with
  | false =>
    -- unchanged, the node comes back whole, over its own operands
    simp only [PassStep] at step
    subst step
    simp [rebuild, hnode.2.2]
  | true =>
    cases l' <;>
    · simp only [rebuild, ↓reduceIte]
      exact optLeafCount_combineFlagged_le _ _ _ _

theorem optLeafCount_rebuild_right_le {o : BooleanOp} {l r : Term} {b : Box} {n : Nat} {f : Flags}
    {r' : Option Term} {changed : Bool} (hnode : (Term.op o l r b n f).Counted)
    (step : PassStep r r' changed) :
    optLeafCount (rebuild (.op o l r b n f) (some l) r' changed).1 ≤
      l.leafCount + optLeafCount r' := by
  cases changed with
  | false =>
    simp only [PassStep] at step
    subst step
    simp [rebuild, hnode.2.2]
  | true =>
    cases r' <;>
    · simp only [rebuild, ↓reduceIte]
      exact optLeafCount_combineFlagged_le _ _ _ _

theorem Rule.optCounted {node : Term} {r : Option Term} (h : Rule node r) (hnode : node.Counted) :
    OptCounted r := by
  cases h <;> simp_all [OptCounted.combineFlagged]

theorem counted_passRelation : PassRelation fun node result => node.Counted → OptCounted result where
  refl _ h := h
  trans hab hbc h := hbc (hab h)
  rewrite found h := (Rule.of_rewrite found).optCounted h
  left _ hl h := OptCounted.rebuild h (hl h.1) (r := some _) h.2.1 _
  right _ hr h := OptCounted.rebuild h (l := some _) h.1 (hr h.2.1) _

theorem Built.optCounted {t : Option Term} (h : Built t) : OptCounted t := by
  induction h with
  | leaf leaf =>
    unfold Term.ofLeaf
    split <;> trivial
  | combine o f _ _ hl hr => exact OptCounted.combineFlagged hl hr o f
  | withFlags f _ ht => exact Term.Counted.withFlags ht f
  | rebuild changed _ _ _ hnode hl hr => exact OptCounted.rebuild hnode hl hr changed

/-! ### The leaf counter of a pass -/

/-- `st'` comes after `st` in a pass: the budget is the same, and the counter has moved only
within the budget. -/
def PassState.Later (st st' : PassState) : Prop :=
  st'.budget = st.budget ∧ st'.elements ≤ max st.elements st.budget

theorem PassState.Later.refl (st : PassState) : st.Later st := ⟨rfl, le_max_left _ _⟩

theorem PassState.Later.trans {st₁ st₂ st₃ : PassState} (h₁ : st₁.Later st₂) (h₂ : st₂.Later st₃) :
    st₁.Later st₃ := by
  obtain ⟨budget₁, elements₁⟩ := h₁
  obtain ⟨budget₂, elements₂⟩ := h₂
  refine ⟨budget₂.trans budget₁, ?_⟩
  rw [budget₁] at elements₂
  exact elements₂.trans (max_le elements₁ (le_max_right _ _))

/-- What a run of the rewrite loop or of a pass from `st` to `st'` keeps of the counter, for a
node with `ctx` leaves set aside around it: unless the budget stopped it, the counter covers those
leaves and the leaves of the result; and `st'` comes after `st`. -/
structure Accounts (ctx : Nat) (st : PassState) (result : Option Term) (st' : PassState) :
    Prop where
  covers : st'.aborted = false → ctx + optLeafCount result ≤ st'.elements
  later : st.Later st'

theorem Accounts.keep {ctx : Nat} {st : PassState} {t : Term} (covers : ctx + t.leafCount ≤ st.elements) :
    Accounts ctx st (some t) st :=
  ⟨fun _ => covers, .refl st⟩

theorem rewriteAt_accounts (st : PassState) (node : Term) :
    ∀ ctx, ctx + node.leafCount ≤ st.elements →
      Accounts ctx st (rewriteAt st node).term (rewriteAt st node).state := by
  fun_induction rewriteAt st node with
  | case1 st node => exact fun _ covers => .keep covers
  | case2 st node => exact fun _ covers => ⟨fun _ => covers, .refl st⟩
  | case3 st node _ _ _ next fits =>
    intro ctx covers
    refine ⟨fun _ => ?_, rfl, ?_⟩
    · simp +zetaDelta only [optLeafCount_none, Option.map_none, Option.getD_none] at fits ⊢
      omega
    · exact (Nat.not_lt.mp fits).trans (le_max_right _ _)
  | case4 st node r _ _ _ next fits ih =>
    intro ctx covers
    -- the replacement has the node's place, and the counter moved by the difference
    have moved : ctx + r.leafCount ≤ next := by
      simp +zetaDelta only [Option.map_some, Option.getD_some]
      omega
    have first : st.Later ⟨st.budget, next, st.aborted⟩ :=
      ⟨rfl, (Nat.not_lt.mp fits).trans (le_max_right _ _)⟩
    have accounts := ih ctx moved
    exact ⟨accounts.covers, first.trans accounts.later⟩

section Operands

variable {ctx e : Nat} {o : BooleanOp} {l r : Term} {b : Box} {n : Nat} {f : Flags}

theorem covers_left (hnode : (Term.op o l r b n f).Counted)
    (covers : ctx + (Term.op o l r b n f).leafCount ≤ e) : ctx + r.leafCount + l.leafCount ≤ e := by
  simp only [Term.counted_op, Term.leafCount_op] at hnode covers
  omega

theorem covers_right (hnode : (Term.op o l r b n f).Counted)
    (covers : ctx + (Term.op o l r b n f).leafCount ≤ e) : ctx + l.leafCount + r.leafCount ≤ e := by
  simp only [Term.counted_op, Term.leafCount_op] at hnode covers
  omega

theorem covers_overLeft {res : PassResult l} (hnode : (Term.op o l r b n f).Counted)
    (covers : ctx + r.leafCount + optLeafCount res.term ≤ e) :
    ctx + optLeafCount (res.overLeft r b n f (o := o)).term ≤ e := by
  have rebuilt := optLeafCount_rebuild_left_le hnode res.step
  simp only [PassResult.overLeft]
  omega

theorem covers_overRight {res : PassResult r} (hnode : (Term.op o l r b n f).Counted)
    (covers : ctx + l.leafCount + optLeafCount res.term ≤ e) :
    ctx + optLeafCount (res.overRight l b n f (o := o)).term ≤ e := by
  have rebuilt := optLeafCount_rebuild_right_le hnode res.step
  simp only [PassResult.overRight]
  omega

end Operands

theorem accounts_afterLeft {st : PassState} {node : Term} {ctx : Nat} {o : BooleanOp}
    {left right : Term} {b : Box} {n : Nat} {f : Flags} (hnode : node.Counted)
    (covers : ctx + node.leafCount ≤ st.elements)
    (running : (rewriteAt st node).state.aborted = false)
    (found : (rewriteAt st node).term = some (.op o left right b n f))
    (ihLeft : ∀ ctx, left.Counted → ctx + left.leafCount ≤ (rewriteAt st node).state.elements →
      Accounts ctx (rewriteAt st node).state (runPass (rewriteAt st node).state left).term
        (runPass (rewriteAt st node).state left).state) :
    st.Later (runPass (rewriteAt st node).state left).state ∧
      ((runPass (rewriteAt st node).state left).state.aborted = false →
        ctx + optLeafCount ((runPass (rewriteAt st node).state left).overLeft right b n f
          (o := o)).term ≤ (runPass (rewriteAt st node).state left).state.elements) ∧
      OptCounted ((runPass (rewriteAt st node).state left).overLeft right b n f (o := o)).term := by
  have rewritten := rewriteAt_accounts st node ctx covers
  have hcurrent : (Term.op o left right b n f).Counted := counted_passRelation.current found hnode
  have coversCurrent : ctx + (Term.op o left right b n f).leafCount ≤
      (rewriteAt st node).state.elements := by
    simpa [found] using rewritten.covers running
  have leftDone := ihLeft (ctx + right.leafCount) hcurrent.1 (covers_left hcurrent coversCurrent)
  exact ⟨rewritten.later.trans leftDone.later,
    fun leftRunning => covers_overLeft hcurrent (leftDone.covers leftRunning),
    counted_passRelation.overLeft (counted_passRelation.runPass _ _) hcurrent⟩

theorem accounts_afterLeft_some {st : PassState} {node : Term} {ctx : Nat} {o : BooleanOp}
    {left right : Term} {b : Box} {n : Nat} {f : Flags} (hnode : node.Counted)
    (covers : ctx + node.leafCount ≤ st.elements)
    (running : (rewriteAt st node).state.aborted = false)
    (found : (rewriteAt st node).term = some (.op o left right b n f))
    (ihLeft : ∀ ctx, left.Counted → ctx + left.leafCount ≤ (rewriteAt st node).state.elements →
      Accounts ctx (rewriteAt st node).state (runPass (rewriteAt st node).state left).term
        (runPass (rewriteAt st node).state left).state)
    (leftRunning : (runPass (rewriteAt st node).state left).state.aborted = false) {u : Term}
    (rebuilt : ((runPass (rewriteAt st node).state left).overLeft right b n f (o := o)).term =
      some u) :
    st.Later (runPass (rewriteAt st node).state left).state ∧
      ctx + u.leafCount ≤ (runPass (rewriteAt st node).state left).state.elements ∧ u.Counted := by
  obtain ⟨later, coversRebuilt, countedRebuilt⟩ :=
    accounts_afterLeft hnode covers running found ihLeft
  have coversU := coversRebuilt leftRunning
  rw [rebuilt, optLeafCount_some] at coversU
  rw [rebuilt, optCounted_some] at countedRebuilt
  exact ⟨later, coversU, countedRebuilt⟩

theorem runPass_accounts (st : PassState) (node : Term) :
    ∀ ctx, node.Counted → ctx + node.leafCount ≤ st.elements →
      Accounts ctx st (runPass st node).term (runPass st node).state := by
  fun_induction runPass st node with
  | case1 => exact fun _ _ covers => .keep covers
  | case2 st node => exact fun ctx _ covers => rewriteAt_accounts st node ctx covers
  | case3 st node => exact fun ctx _ covers => rewriteAt_accounts st node ctx covers
  | case4 st node => exact fun ctx _ covers => rewriteAt_accounts st node ctx covers
  | case5 st node _ r running o left right b n f found _ _ l leftAborted _ _ ihLeft =>
    intro ctx hnode covers
    have after := accounts_afterLeft hnode covers (by simpa using running) found ihLeft
    exact ⟨fun leftRunning => absurd leftAborted (by simpa using leftRunning), after.1⟩
  | case6 st node _ r running o left right b n f found _ _ l leftRunning rebuilt _ _ _ ihLeft =>
    intro ctx hnode covers
    have after := accounts_afterLeft hnode covers (by simpa using running) found ihLeft
    have coversRebuilt := after.2.1 (by simpa using leftRunning)
    refine ⟨fun _ => ?_, after.1⟩
    show ctx + optLeafCount none ≤ (runPass (rewriteAt st node).state left).state.elements
    simp only [optLeafCount_none]
    omega
  | case7 st node _ r running o left right b n f found _ _ l leftRunning rebuilt leaf box flags
      found' _ _ _ _ ihLeft =>
    intro ctx hnode covers
    have after := accounts_afterLeft hnode covers (by simpa using running) found ihLeft
    have coversRebuilt := after.2.1 (by simpa using leftRunning)
    exact ⟨fun _ => by rwa [found'] at coversRebuilt, after.1⟩
  | case8 st node _ r running o left right b n f found _ _ l leftRunning rebuilt o' left' right' b'
      n' f' found' _ _ _ _ _ _ _ ihLeft ihAgain =>
    intro ctx hnode covers
    obtain ⟨later, coversRebuilt, countedRebuilt⟩ := accounts_afterLeft_some hnode covers
      (by simpa using running) found ihLeft (by simpa using leftRunning) found'
    have again := ihAgain ctx countedRebuilt coversRebuilt
    exact ⟨again.covers, later.trans again.later⟩
  | case9 st node _ r running o left right b n f found _ _ l leftRunning rebuilt o' left' right' b'
      n' f' found' _ _ _ _ rr rightAborted _ _ _ ihLeft ihRight =>
    intro ctx hnode covers
    obtain ⟨later, coversRebuilt, countedRebuilt⟩ := accounts_afterLeft_some hnode covers
      (by simpa using running) found ihLeft (by simpa using leftRunning) found'
    have rightDone := ihRight (ctx + left'.leafCount) countedRebuilt.2.1
      (covers_right countedRebuilt coversRebuilt)
    exact ⟨fun rightRunning => absurd rightAborted (by simpa using rightRunning),
      later.trans rightDone.later⟩
  | case10 st node _ r running o left right b n f found _ _ l leftRunning rebuilt o' left' right'
      b' n' f' found' _ _ _ _ rr rightRunning last _ _ _ ihLeft _ ihRight =>
    intro ctx hnode covers
    obtain ⟨later, coversRebuilt, countedRebuilt⟩ := accounts_afterLeft_some hnode covers
      (by simpa using running) found ihLeft (by simpa using leftRunning) found'
    have rightDone := ihRight (ctx + left'.leafCount) countedRebuilt.2.1
      (covers_right countedRebuilt coversRebuilt)
    exact ⟨fun _ => covers_overRight countedRebuilt (rightDone.covers (by simpa using rightRunning)),
      later.trans rightDone.later⟩

/-! ### Where a pass rewrites -/

/-- The rewrite loop started at `node` in state `st` tests the rules at `node'` in state `st'`:
at the node itself, then at each replacement the budget lets through, with the counter moved by
the leaves the rule added or removed. -/
inductive RewriteVisit : PassState → Term → PassState → Term → Prop
  | here (st : PassState) (node : Term) : RewriteVisit st node st node
  | next {st st' : PassState} {node node' r : Term} (found : rewrite node = some (some r))
      (fits : st.elements + r.leafCount - node.leafCount ≤ st.budget)
      (rest : RewriteVisit { st with elements := st.elements + r.leafCount - node.leafCount } r
        st' node') :
      RewriteVisit st node st' node'

/-- A pass over `node` started in state `st`, with `ctx` leaves set aside around the node, runs
the rewrite loop at `node'` in state `st'` with `ctx'` leaves set aside: at the node itself; in the
left operand of what the loop made of it, setting the right operand aside; at the node rebuilt
over its new left operand, when the pass comes back to it; and in the right operand of that,
setting the left operand aside. -/
inductive PassVisit : Nat → PassState → Term → Nat → PassState → Term → Prop
  | rewrite {ctx : Nat} {st st' : PassState} {node node' : Term} (running : st.aborted = false)
      (inner : node.isLeaf = false) (loop : RewriteVisit st node st' node') :
      PassVisit ctx st node ctx st' node'
  | left {ctx ctx' : Nat} {st st' : PassState} {node node' : Term} {o : BooleanOp} {l r : Term}
      {b : Box} {n : Nat} {f : Flags} (running : st.aborted = false) (inner : node.isLeaf = false)
      (found : (rewriteAt st node).term = some (.op o l r b n f))
      (rewritten : (rewriteAt st node).state.aborted = false)
      (visit : PassVisit (ctx + r.leafCount) (rewriteAt st node).state l ctx' st' node') :
      PassVisit ctx st node ctx' st' node'
  | again {ctx ctx' : Nat} {st st' : PassState} {node node' : Term} {o o' : BooleanOp}
      {l r l' r' : Term} {b b' : Box} {n n' : Nat} {f f' : Flags} (running : st.aborted = false)
      (inner : node.isLeaf = false) (found : (rewriteAt st node).term = some (.op o l r b n f))
      (rewritten : (rewriteAt st node).state.aborted = false)
      (leftDone : (runPass (rewriteAt st node).state l).state.aborted = false)
      (rebuilt : ((runPass (rewriteAt st node).state l).overLeft r b n f (o := o)).term =
        some (.op o' l' r' b' n' f'))
      (back : revisit (.op o' l' r' b' n' f') = true)
      (visit : PassVisit ctx (runPass (rewriteAt st node).state l).state (.op o' l' r' b' n' f')
        ctx' st' node') :
      PassVisit ctx st node ctx' st' node'
  | right {ctx ctx' : Nat} {st st' : PassState} {node node' : Term} {o o' : BooleanOp}
      {l r l' r' : Term} {b b' : Box} {n n' : Nat} {f f' : Flags} (running : st.aborted = false)
      (inner : node.isLeaf = false) (found : (rewriteAt st node).term = some (.op o l r b n f))
      (rewritten : (rewriteAt st node).state.aborted = false)
      (leftDone : (runPass (rewriteAt st node).state l).state.aborted = false)
      (rebuilt : ((runPass (rewriteAt st node).state l).overLeft r b n f (o := o)).term =
        some (.op o' l' r' b' n' f'))
      (back : revisit (.op o' l' r' b' n' f') = false)
      (visit : PassVisit (ctx + l'.leafCount) (runPass (rewriteAt st node).state l).state r' ctx'
        st' node') :
      PassVisit ctx st node ctx' st' node'

theorem RewriteVisit.covers {ctx : Nat} {st st' : PassState} {node node' : Term}
    (visit : RewriteVisit st node st' node') (covers : ctx + node.leafCount ≤ st.elements) :
    ctx + node'.leafCount ≤ st'.elements := by
  induction visit with
  | here => exact covers
  | next _ _ _ ih => exact ih (by simp only; omega)

theorem PassVisit.covers {ctx ctx' : Nat} {st st' : PassState} {node node' : Term}
    (visit : PassVisit ctx st node ctx' st' node') :
    node.Counted → ctx + node.leafCount ≤ st.elements → ctx' + node'.leafCount ≤ st'.elements := by
  induction visit with
  | rewrite _ _ loop => exact fun _ covers => loop.covers covers
  | left _ _ found rewritten _ ih =>
    intro hnode covers
    have hcurrent := counted_passRelation.current found hnode
    have coversCurrent := (rewriteAt_accounts _ _ _ covers).covers rewritten
    rw [found, optLeafCount_some] at coversCurrent
    exact ih hcurrent.1 (covers_left hcurrent coversCurrent)
  | again _ _ found rewritten leftDone rebuilt _ _ ih =>
    intro hnode covers
    obtain ⟨-, coversRebuilt, countedRebuilt⟩ := accounts_afterLeft_some hnode covers rewritten
      found (fun _ => runPass_accounts _ _ _) leftDone rebuilt
    exact ih countedRebuilt coversRebuilt
  | right _ _ found rewritten leftDone rebuilt _ _ ih =>
    intro hnode covers
    obtain ⟨-, coversRebuilt, countedRebuilt⟩ := accounts_afterLeft_some hnode covers rewritten
      found (fun _ => runPass_accounts _ _ _) leftDone rebuilt
    exact ih countedRebuilt.2.1 (covers_right countedRebuilt coversRebuilt)

/-! ### The leaves normalization gives back -/

/-- The terms normalization passes over, from `t` on: `t` itself, and what each pass that the
budget did not stop changed a term to. -/
inductive PassesOver (budget : Nat) (t : Term) : Term → Prop
  | start : PassesOver budget t t
  | next {u v : Term} (earlier : PassesOver budget t u)
      (running : (runPass ⟨budget, u.leafCount, false⟩ u).state.aborted = false)
      (found : (runPass ⟨budget, u.leafCount, false⟩ u).term = some v)
      (changed : (runPass ⟨budget, u.leafCount, false⟩ u).changed = true) :
      PassesOver budget t v

theorem runPass_leafCount_le {budget : Nat} {u : Term} (hu : u.Counted)
    (running : (runPass ⟨budget, u.leafCount, false⟩ u).state.aborted = false) :
    optLeafCount (runPass ⟨budget, u.leafCount, false⟩ u).term ≤ max u.leafCount budget ∧
      OptCounted (runPass ⟨budget, u.leafCount, false⟩ u).term := by
  have accounts := runPass_accounts ⟨budget, u.leafCount, false⟩ u 0 hu (by simp)
  have covers := accounts.covers running
  have bounded := accounts.later.2
  exact ⟨by simp only at bounded; omega, counted_passRelation.runPass _ _ hu⟩

theorem PassesOver.counted {budget : Nat} {t u : Term} (passes : PassesOver budget t u)
    (ht : t.Counted) : u.Counted ∧ u.leafCount ≤ max budget t.leafCount := by
  induction passes with
  | start => exact ⟨ht, le_max_right _ _⟩
  | next _ running found _ ih =>
    have after := runPass_leafCount_le ih.1 running
    rw [found, optLeafCount_some, optCounted_some] at after
    exact ⟨after.2, after.1.trans (max_le ih.2 (le_max_left _ _))⟩

theorem normalizePasses_leafCount_le {budget bound : Nat} (within : budget ≤ bound)
    {cancel : Pipeline.CancelToken} {current : Term} {passes : Nat} {unchanged : Bool}
    {log log' : Array LogRecord} {n : Normalized} (hcurrent : current.Counted)
    (small : current.leafCount ≤ bound)
    (run : (normalizePasses budget cancel current passes unchanged).run.run log = (.ok n, log')) :
    n.leafCount ≤ bound := by
  fun_induction normalizePasses budget cancel current passes unchanged generalizing log with
  | case1 => cases (Prod.mk.inj run).1
  | case2 =>
    cases Except.ok.inj (Prod.mk.inj run).1
    simpa [Normalized.leafCount_eq] using small
  | case3 =>
    cases Except.ok.inj (Prod.mk.inj run).1
    simp [Normalized.leafCount_eq]
  | case4 =>
    rename_i current _ _ _ r _ running next found _ _ _ ih
    have after := runPass_leafCount_le hcurrent (by simpa using running)
    rw [found, optLeafCount_some, optCounted_some] at after
    exact ih after.2 (after.1.trans (max_le small within)) run
  | case5 =>
    cases Except.ok.inj (Prod.mk.inj run).1
    simpa [Normalized.leafCount_eq] using small

/-- The element budget bounds the result. Normalizing a term whose nodes count their leaves, as
every term the constructors build does (`Built.optCounted`), gives back, whether the budget
stopped it or not, at most as many leaves as the budget or the term itself has, and so at most the
budget when the term fits it. Within every pass normalization makes, at every node the pass
rewrites, the leaf counter covers the leaves of that node and of the operands set aside around it,
which is at least the leaves the pass would give back if it stopped there; in particular it is
never below the node's own leaves, so taking them off it never has to stop at zero. -/
theorem normalize_leafCount_le_budget {t : Term} (ht : t.Counted) (budget : Nat) :
    (∀ (cancel : Pipeline.CancelToken) (log log' : Array LogRecord) (n : Normalized),
        (normalize budget cancel t).run.run log = (.ok n, log') →
          n.leafCount ≤ max budget t.leafCount) ∧
      ∀ u, PassesOver budget t u → ∀ (ctx : Nat) (st : PassState) (node : Term),
        PassVisit 0 ⟨budget, u.leafCount, false⟩ u ctx st node →
          ctx + node.leafCount ≤ st.elements := by
  refine ⟨fun cancel log log' n run => ?_, fun u passes ctx st node visit => ?_⟩
  · exact normalizePasses_leafCount_le (le_max_left _ _) ht (le_max_right _ _) run
  · exact visit.covers (passes.counted ht).1 (by simp)

/-- A difference of two leaves counts its leaves, and normalizing it within a budget of one leaf
gives back at most two. -/
theorem normalize_leafCount_le_budget_difference :
    let t : Term := .op .difference (.leaf default default {}) (.leaf default default {}) default 2 {}
    t.Counted ∧
      (∀ (cancel : Pipeline.CancelToken) (log log' : Array LogRecord) (n : Normalized),
        (normalize 1 cancel t).run.run log = (.ok n, log') → n.leafCount ≤ max 1 t.leafCount) ∧
      ∀ u, PassesOver 1 t u → ∀ (ctx : Nat) (st : PassState) (node : Term),
        PassVisit 0 ⟨1, u.leafCount, false⟩ u ctx st node → ctx + node.leafCount ≤ st.elements :=
  have counted : Term.Counted (.op .difference (.leaf default default {})
      (.leaf default default {}) default 2 {}) := ⟨trivial, trivial, rfl⟩
  ⟨counted, normalize_leafCount_le_budget counted 1⟩

end CsgPreview.Csg
