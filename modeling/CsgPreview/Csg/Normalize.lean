import CsgPreview.Csg.Rewrite
import CsgPreview.Error
import CsgPreview.Log
import CsgPreview.Pipeline.Progress

/-!
Normalizing a term toward a union of products with the rules of `Csg.Rewrite`.

A pass walks the term top down: it rewrites a node until no rule applies, then its left operand;
it comes back to the node while the node is a product whose right operand is not a leaf or whose
left operand is a union; then it does the right operand. Passes repeat until one changes nothing.
A rewrite that would grow the term past the budget (counted in leaves) stops normalization, and
the term as it was before that pass is the result.

Every rewrite and every rebuilt node makes a new term, so "changed" is tracked along the way: a
pass that changed nothing returns its input itself. What a pass gives back carries the reason
it ends: the node itself marked unchanged, or a lighter term marked changed. Coming back to a
node only follows a change, so the weight of the node falls each time, and so does the weight
of the term from one pass to the next. Each pass starts at a checkpoint of the cancel token.
-/

namespace CsgPreview.Csg

open CsgPreview.Geometry

/-- The state of a pass: the budget, the leaf count the term has reached, and whether the budget
stopped it. -/
structure PassState where
  budget : Nat
  elements : Nat
  aborted : Bool := false

/-- What a pass may do to a term: give it back and say it is unchanged, or give back a lighter
term (none for the empty set) and say it changed. -/
def PassStep (node : Term) (result : Option Term) : Bool → Prop
  | false => result = some node
  | true => optWeight result < node.weight

theorem PassStep.weight_le {node : Term} {result : Option Term} {changed : Bool}
    (h : PassStep node result changed) : optWeight result ≤ node.weight := by
  cases changed with
  | false => simp only [PassStep] at h; simp [h]
  | true => exact Nat.le_of_lt h

theorem PassStep.trans {node next : Term} {result : Option Term} {c₁ c₂ : Bool}
    (h₁ : PassStep node (some next) c₁) (h₂ : PassStep next result c₂) :
    PassStep node result (c₁ || c₂) := by
  cases c₁ with
  | false =>
    simp only [PassStep, Option.some.injEq] at h₁
    subst h₁
    simpa using h₂
  | true => exact Nat.lt_of_le_of_lt h₂.weight_le h₁

theorem PassStep.emptied (node : Term) : PassStep node none true := by
  have := node.two_le_weight
  show 0 < node.weight
  omega

theorem PassStep.of_lighter {node next : Term} {result : Option Term} {changed : Bool}
    (h : PassStep next result changed) (lighter : next.weight < node.weight) :
    PassStep node result true :=
  Nat.lt_of_le_of_lt h.weight_le lighter

/-- The outcome of a pass over a node. -/
structure PassResult (node : Term) where
  state : PassState
  term : Option Term
  changed : Bool
  step : PassStep node term changed

/-- A node over new operands: the node itself when neither operand changed, else the operands
combined again with the node's operation and flags. -/
def rebuild (node : Term) (left right : Option Term) (changed : Bool) : Option Term × Bool :=
  match node, left, right with
  | .op o _ _ _ _ flags, l, r =>
    match l, r with
    | some _, some _ => if changed then (Term.combineFlagged o l r flags, true) else (some node, false)
    | _, _ => (Term.combineFlagged o l r flags, true)
  | .leaf .., _, _ => (some node, false)

theorem rebuild_left_step {o : BooleanOp} {l r : Term} {b : Box} {n : Nat} {f : Flags}
    {newLeft result : Option Term} {changed rebuilt : Bool}
    (hl : PassStep l newLeft changed)
    (h : rebuild (.op o l r b n f) newLeft (some r) changed = (result, rebuilt)) :
    PassStep (.op o l r b n f) result rebuilt := by
  cases changed with
  | false =>
    simp only [PassStep] at hl
    subst hl
    simp only [rebuild, Bool.false_eq_true, ↓reduceIte, Prod.mk.injEq] at h
    obtain ⟨rfl, rfl⟩ := h
    rfl
  | true =>
    have lighter : opWeight o (optWeight newLeft) r.weight < opWeight o l.weight r.weight :=
      opWeight_lt_left (by have := r.two_le_weight; omega) hl
    cases newLeft <;>
    · simp only [rebuild, ↓reduceIte, Prod.mk.injEq] at h
      obtain ⟨rfl, rfl⟩ := h
      exact Nat.lt_of_le_of_lt (optWeight_combineFlagged_le _ _ _ _) lighter

theorem rebuild_right_step {o : BooleanOp} {l r : Term} {b : Box} {n : Nat} {f : Flags}
    {newRight result : Option Term} {changed rebuilt : Bool}
    (hr : PassStep r newRight changed)
    (h : rebuild (.op o l r b n f) (some l) newRight changed = (result, rebuilt)) :
    PassStep (.op o l r b n f) result rebuilt := by
  cases changed with
  | false =>
    simp only [PassStep] at hr
    subst hr
    simp only [rebuild, Bool.false_eq_true, ↓reduceIte, Prod.mk.injEq] at h
    obtain ⟨rfl, rfl⟩ := h
    rfl
  | true =>
    have lighter : opWeight o l.weight (optWeight newRight) < opWeight o l.weight r.weight :=
      opWeight_lt_right (by have := l.two_le_weight; omega) hr
    cases newRight <;>
    · simp only [rebuild, ↓reduceIte, Prod.mk.injEq] at h
      obtain ⟨rfl, rfl⟩ := h
      exact Nat.lt_of_le_of_lt (optWeight_combineFlagged_le _ _ _ _) lighter

def PassResult.keep (st : PassState) (node : Term) : PassResult node :=
  ⟨st, some node, false, rfl⟩

def PassResult.lighter {node next : Term} (r : PassResult next)
    (lighter : next.weight < node.weight) : PassResult node :=
  ⟨r.state, r.term, true, r.step.of_lighter lighter⟩

theorem PassResult.stepOf {node t : Term} (r : PassResult node) (found : t ∈ r.term) :
    PassStep node (some t) r.changed := by
  have := r.step
  rw [Option.mem_def.mp found] at this
  exact this

def PassResult.overLeft {o : BooleanOp} {l : Term} (r : Term) (b : Box) (n : Nat) (f : Flags)
    (res : PassResult l) : PassResult (.op o l r b n f) :=
  let rebuilt := rebuild (.op o l r b n f) res.term (some r) res.changed
  ⟨res.state, rebuilt.1, rebuilt.2, rebuild_left_step res.step rfl⟩

def PassResult.overRight {o : BooleanOp} (l : Term) {r : Term} (b : Box) (n : Nat) (f : Flags)
    (res : PassResult r) : PassResult (.op o l r b n f) :=
  let rebuilt := rebuild (.op o l r b n f) (some l) res.term res.changed
  ⟨res.state, rebuilt.1, rebuilt.2, rebuild_right_step res.step rfl⟩

/-- Apply rules at a node until none applies; stops (and marks the pass aborted) when a rewrite
would take the term past the budget. -/
def rewriteAt (st : PassState) (node : Term) : PassResult node :=
  match (rewrite node).attach with
  | none => .keep st node
  | some ⟨replacement, found⟩ =>
    let next := st.elements + (replacement.map Term.leafCount).getD 0 - node.leafCount
    if next > st.budget then .keep { st with aborted := true } node
    else
      match replacement, found with
      | none, _ => ⟨{ st with elements := next }, none, true, .emptied node⟩
      | some r, found => (rewriteAt { st with elements := next } r).lighter
          (optWeight_rewrite_lt (Option.mem_def.mp found))
termination_by node.weight
decreasing_by exact optWeight_rewrite_lt (Option.mem_def.mp found)

theorem rewriteAt_settled (st : PassState) (node : Term) {current : Term}
    (running : (rewriteAt st node).state.aborted = false)
    (found : current ∈ (rewriteAt st node).term) : rewrite current = none := by
  fun_induction rewriteAt st node with
  | case1 st node none =>
    simp only [PassResult.keep, Option.mem_def, Option.some.injEq] at found
    subst found
    simpa using none
  | case2 => simp [PassResult.keep] at running
  | case3 => simp at found
  | case4 _ _ _ _ _ _ _ _ ih => exact ih running found

/-- Whether a pass comes back to a node after doing its left operand: the node is a product
whose right operand is not a leaf or whose left operand is a union. -/
def revisit : Term → Bool
  | .op o l r .. => o != .union && (!r.isLeaf || l.opKind? == some .union)
  | .leaf .. => false

theorem revisit_eq_false_of_rewrite_eq_none {node : Term} (h : rewrite node = none) :
    revisit node = false := by
  cases node with
  | leaf => rfl
  | op o l r b n f =>
    rcases (rewrite_op_eq_none_iff o l r b n f).mp h with rfl | ⟨leaf, notUnion, _⟩
    · rfl
    · simp [revisit, leaf, notUnion]

theorem revisit_weight_lt {node current next : Term} {c₁ c₂ : Bool}
    (h₁ : PassStep node (some current) c₁) (settled : rewrite current = none)
    (h₂ : PassStep current (some next) c₂) (again : revisit next = true) :
    next.weight < node.weight := by
  have step := h₁.trans h₂
  cases hc : (c₁ || c₂) with
  | true => rw [hc] at step; exact step
  | false =>
    simp only [Bool.or_eq_false_iff] at hc
    obtain ⟨rfl, rfl⟩ := hc
    simp only [PassStep, Option.some.injEq] at h₂
    subst h₂
    rw [revisit_eq_false_of_rewrite_eq_none settled] at again
    contradiction

theorem Term.weight_left_lt (o : BooleanOp) (l r : Term) (b : Box) (n : Nat) (f : Flags) :
    l.weight < (Term.op o l r b n f).weight := by
  have hl := l.two_le_weight
  have hr := r.two_le_weight
  cases o with
  | union => simp only [weight_op, opWeight]; omega
  | intersection =>
    have := Nat.mul_le_mul_left l.weight (Nat.pow_le_pow_left hr 2)
    simp only [weight_op, opWeight, Nat.pow_eq]
    omega
  | difference => exact Nat.lt_succ_of_le (Nat.le_mul_of_pos_right _ (Nat.two_pow_pos _))

theorem Term.weight_right_lt (o : BooleanOp) (l r : Term) (b : Box) (n : Nat) (f : Flags) :
    r.weight < (Term.op o l r b n f).weight := by
  have hl := l.two_le_weight
  have hr := r.two_le_weight
  cases o with
  | union => simp only [weight_op, opWeight]; omega
  | intersection =>
    have := Nat.mul_le_mul hl (Nat.le_self_pow (n := 2) (by decide) r.weight)
    simp only [weight_op, opWeight, Nat.pow_eq]
    omega
  | difference =>
    have := Nat.mul_le_mul hl (Nat.le_of_lt (Nat.lt_two_pow_self (n := r.weight)))
    simp only [weight_op, opWeight, Nat.pow_eq]
    omega

/-- One pass over a term: rewrite the node, do its left operand, come back to the node while it
asks for it, then do its right operand. -/
def runPass (st : PassState) (node : Term) : PassResult node :=
  if st.aborted || node.isLeaf then .keep st node
  else
    let r := rewriteAt st node
    match r.term.attach with
    | none => r
    | some ⟨current, found⟩ =>
      if running : r.state.aborted then r
      else
        match current, found with
        | .leaf .., _ => r
        | .op o left right b n f, found =>
          have hcurrent := r.stepOf found
          have lighterLeft : left.weight < node.weight :=
            Nat.lt_of_lt_of_le (Term.weight_left_lt o left right b n f) hcurrent.weight_le
          let l := runPass r.state left
          if l.state.aborted then ⟨l.state, some _, r.changed, hcurrent⟩
          else
            let rebuilt := l.overLeft right b n f (o := o)
            match rebuilt.term.attach with
            | none => ⟨l.state, none, true, .emptied node⟩
            | some ⟨.leaf .., found'⟩ =>
              ⟨l.state, some _, r.changed || rebuilt.changed, hcurrent.trans (rebuilt.stepOf found')⟩
            | some ⟨.op o' left' right' b' n' f', found'⟩ =>
              have hnext := hcurrent.trans (rebuilt.stepOf found')
              if again : revisit (.op o' left' right' b' n' f') then
                have lighter : (Term.op o' left' right' b' n' f').weight < node.weight :=
                  revisit_weight_lt hcurrent (rewriteAt_settled st node (by simpa using running) found)
                    (rebuilt.stepOf found') again
                (runPass l.state _).lighter lighter
              else
                have lighterRight : right'.weight < node.weight :=
                  Nat.lt_of_lt_of_le (Term.weight_right_lt o' left' right' b' n' f') hnext.weight_le
                let rr := runPass l.state right'
                if rr.state.aborted then ⟨rr.state, some _, r.changed || rebuilt.changed, hnext⟩
                else
                  let last := rr.overRight left' b' n' f' (o := o')
                  ⟨rr.state, last.term, r.changed || rebuilt.changed || last.changed,
                    hnext.trans last.step⟩
termination_by node.weight

/-- The outcome of normalizing: the term (none for the empty set), whether the budget stopped
it, the number of passes, and whether the term is still the one given. -/
structure Normalized where
  term : Option Term
  aborted : Bool
  passes : Nat
  unchanged : Bool

def Normalized.leafCount (n : Normalized) : Nat := (n.term.map Term.leafCount).getD 0

/-- Passes until one changes nothing; a cancel seen at the checkpoint before a pass stops it with
an error. The checkpoints before `passes` have passed. -/
def normalizePasses (budget : Nat) (cancel : Pipeline.CancelToken) (current : Term) (passes : Nat)
    (unchanged : Bool) : ExceptT PipelineError Logged Normalized :=
  if (cancel.after passes).isCancelled then throw .cancelled
  else
    let r := runPass ⟨budget, current.leafCount, false⟩ current
    let passes := passes + 1
    if r.state.aborted then do
      report .warn .normalizer ("Normalized tree is growing past " ++ toString budget ++
        " elements. Aborting normalization.")
      return ⟨some current, true, passes, unchanged⟩
    else
      match r.term.attach with
      | none => return ⟨none, false, passes, false⟩
      | some ⟨next, found⟩ =>
        if changed : r.changed then
          have lighter : next.weight < current.weight := by
            have step := r.stepOf found
            rw [changed] at step
            exact step
          normalizePasses budget cancel next passes false
        else do
          report .debug .normalizer ("Normalized term to " ++ toString current.leafCount ++
            " elements in " ++ toString passes ++ " passes")
          return ⟨some current, false, passes, unchanged⟩
termination_by current.weight
decreasing_by exact lighter

def normalize (budget : Nat) (cancel : Pipeline.CancelToken) (term : Term) :
    ExceptT PipelineError Logged Normalized :=
  normalizePasses budget cancel term 0 true

end CsgPreview.Csg
