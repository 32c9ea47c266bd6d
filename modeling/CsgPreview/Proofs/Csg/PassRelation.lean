import CsgPreview.Csg.Normalize

/-!
Relations a normalization pass cannot break.

A relation between a term and what a pass may make of it is closed under the steps of a pass
when it relates every term to itself, chains, relates every node to what a rule rewrites it to,
and carries from an operand to its node rebuilt over what the pass made of the operand. Then a
pass, and normalization as a whole, only gives back a term related to the one it started from,
whether or not the budget stopped it.
-/

namespace CsgPreview.Csg

open CsgPreview.Geometry

/-- A relation between a term and what a pass makes of it that every step of a pass keeps. -/
structure PassRelation (P : Term → Option Term → Prop) : Prop where
  refl : ∀ t, P t (some t)
  trans : ∀ {a b : Term} {c : Option Term}, P a (some b) → P b c → P a c
  rewrite : ∀ {t : Term} {r : Option Term}, rewrite t = some r → P t r
  left : ∀ {o : BooleanOp} {l r : Term} {b : Box} {n : Nat} {f : Flags} {l' : Option Term}
    {changed : Bool}, PassStep l l' changed → P l l' →
      P (.op o l r b n f) (rebuild (.op o l r b n f) l' (some r) changed).1
  right : ∀ {o : BooleanOp} {l r : Term} {b : Box} {n : Nat} {f : Flags} {r' : Option Term}
    {changed : Bool}, PassStep r r' changed → P r r' →
      P (.op o l r b n f) (rebuild (.op o l r b n f) (some l) r' changed).1

namespace PassRelation

variable {P : Term → Option Term → Prop}

theorem rewriteAt (hP : PassRelation P) (st : PassState) (node : Term) :
    P node (rewriteAt st node).term := by
  fun_induction Csg.rewriteAt st node with
  | case1 st node => exact hP.refl node
  | case2 st node => exact hP.refl node
  | case3 st node found => exact hP.rewrite found
  | case4 st node r found _ _ _ _ ih => exact hP.trans (hP.rewrite found) ih

theorem current (hP : PassRelation P) {st : PassState} {node current : Term}
    (found : (Csg.rewriteAt st node).term = some current) : P node (some current) :=
  found ▸ hP.rewriteAt st node

theorem overLeft (hP : PassRelation P) {o : BooleanOp} {l r : Term} {b : Box} {n : Nat}
    {f : Flags} {res : PassResult l} (h : P l res.term) :
    P (.op o l r b n f) (res.overLeft r b n f (o := o)).term :=
  hP.left res.step h

theorem overLeft_of_eq (hP : PassRelation P) {o : BooleanOp} {l r : Term} {b : Box} {n : Nat}
    {f : Flags} {res : PassResult l} {t : Option Term} (h : P l res.term)
    (rebuilt : (res.overLeft r b n f (o := o)).term = t) : P (.op o l r b n f) t :=
  rebuilt ▸ hP.overLeft h

theorem overRight (hP : PassRelation P) {o : BooleanOp} {l r : Term} {b : Box} {n : Nat}
    {f : Flags} {res : PassResult r} (h : P r res.term) :
    P (.op o l r b n f) (res.overRight l b n f (o := o)).term :=
  hP.right res.step h

theorem runPass (hP : PassRelation P) (st : PassState) (node : Term) :
    P node (runPass st node).term := by
  fun_induction Csg.runPass st node
  case case1 => exact hP.refl _
  case case2 | case3 | case4 => exact hP.rewriteAt _ _
  case case5 =>
    rename_i found _ _
    exact hP.current found
  case case6 =>
    rename_i emptied found _ ih
    exact hP.trans (hP.current found) (hP.overLeft_of_eq ih (Option.attach_eq_none_iff.mp emptied))
  case case7 =>
    rename_i found' _ found _ ih _
    exact hP.trans (hP.current found) (hP.overLeft_of_eq ih found')
  case case8 =>
    rename_i found' _ _ _ _ found _ ih _ ihNext
    exact hP.trans (hP.current found) (hP.trans (hP.overLeft_of_eq ih found') ihNext)
  case case9 =>
    rename_i found' _ _ _ _ _ _ found _ ih _ _
    exact hP.trans (hP.current found) (hP.overLeft_of_eq ih found')
  case case10 =>
    rename_i found' _ _ _ _ _ _ _ found _ ih _ ihRight _
    exact hP.trans (hP.current found)
      (hP.trans (hP.overLeft_of_eq ih found') (hP.overRight ihRight))

theorem normalizePasses (hP : PassRelation P) (budget : Nat) (cancel : Pipeline.CancelToken)
    (current : Term) (passes : Nat) (unchanged : Bool) (log : Array LogRecord) :
    ∃ r log', (normalizePasses budget cancel current passes unchanged).run.run log = (r, log') ∧
      ((cancel.arrival.isSome ∧ r = .error .cancelled) ∨ ∃ n, r = .ok n ∧ P current n.term) := by
  fun_induction Csg.normalizePasses budget cancel current passes unchanged generalizing log with
  | case1 _ _ _ seen =>
    exact ⟨_, _, rfl, .inl ⟨by simpa using Pipeline.CancelToken.arrival_isSome_of_isCancelled seen,
      rfl⟩⟩
  | case2 => exact ⟨_, _, rfl, .inr ⟨_, rfl, hP.refl _⟩⟩
  | case3 current _ _ _ r _ _ emptied =>
    have hpass : P current r.term := hP.runPass _ _
    rw [Option.attach_eq_none_iff.mp emptied] at hpass
    exact ⟨_, _, rfl, .inr ⟨_, rfl, hpass⟩⟩
  | case4 current _ _ _ r _ _ next found _ _ _ ih =>
    obtain ⟨r', log', run, ended⟩ := ih log
    have hpass : P current r.term := hP.runPass _ _
    rw [found] at hpass
    refine ⟨r', log', run, ended.imp id ?_⟩
    rintro ⟨n, rfl, hn⟩
    exact ⟨n, rfl, hP.trans hpass hn⟩
  | case5 => exact ⟨_, _, rfl, .inr ⟨_, rfl, hP.refl _⟩⟩

theorem normalizePasses_uncancelled (hP : PassRelation P) (budget : Nat) (current : Term)
    (passes : Nat) (unchanged : Bool) (log : Array LogRecord) :
    ∃ n log', (Csg.normalizePasses budget {} current passes unchanged).run.run log =
      (.ok n, log') ∧ P current n.term := by
  obtain ⟨r, log', run, ended⟩ := hP.normalizePasses budget {} current passes unchanged log
  rcases ended with ⟨comes, -⟩ | ⟨n, rfl, hn⟩
  · simp at comes
  · exact ⟨n, log', run, hn⟩

end PassRelation

end CsgPreview.Csg
