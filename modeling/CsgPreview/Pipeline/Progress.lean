/-!
Progress of a walk over a number of units, told in permille, and the token that cancels it.

While the walk runs, a mark reports `done * 1000 / total` rounded down and capped at 999, and
only when it is larger than what was last reported (the first mark always reports); finishing
reports 1000 once. The reports are therefore increasing, and the last of a finished walk is 1000.

A cancel may come from another thread at any moment; the job sees it at its next checkpoint. A
run of a job fixes that moment as the number of checkpoints that pass before it.
-/

namespace CsgPreview.Pipeline

/-- A progress count over `total` units with the permille values reported so far. -/
structure Progress where
  total : Nat
  last : Option Nat := none
  reports : Array Nat := #[]
  deriving Inhabited

namespace Progress

def start (total : Nat) : Progress := { total := max total 1 }

def permille (p : Progress) (done : Nat) : Nat := min (done * 1000 / p.total) 999

def mark (p : Progress) (done : Nat) : Progress :=
  let value := p.permille done
  match p.last with
  | some last => if value > last then { p with last := some value, reports := p.reports.push value }
    else p
  | none => { p with last := some value, reports := p.reports.push value }

def finish (p : Progress) : Progress :=
  if p.last == some 1000 then p else { p with last := some 1000, reports := p.reports.push 1000 }

end Progress

/-- A cancel token as the checkpoints of a job meet it: `arrival` is the number of checkpoints
that still pass before a cancel is seen, none when no cancel comes. Once seen, a cancel stays
until the token is reset. -/
structure CancelToken where
  arrival : Option Nat := none
  deriving DecidableEq, Inhabited, Repr

namespace CancelToken

def cancelled : CancelToken := ⟨some 0⟩

def cancelAfter (t : CancelToken) (checks : Nat) : CancelToken :=
  ⟨some ((t.arrival.map (min checks)).getD checks)⟩

def isCancelled (t : CancelToken) : Bool := t.arrival == some 0

def after (t : CancelToken) (n : Nat) : CancelToken := ⟨t.arrival.map (· - n)⟩

@[simp] theorem isCancelled_default : ({} : CancelToken).isCancelled = false := rfl

@[simp] theorem after_default (n : Nat) : ({} : CancelToken).after n = {} := rfl

@[simp] theorem isCancelled_cancelled : CancelToken.cancelled.isCancelled = true := rfl

@[simp] theorem cancelled_after (n : Nat) : CancelToken.cancelled.after n = .cancelled := by
  simp [cancelled, after]

@[simp] theorem isSome_arrival_after (t : CancelToken) (n : Nat) :
    (t.after n).arrival.isSome = t.arrival.isSome := by
  simp [after]

@[simp] theorem after_zero (t : CancelToken) : t.after 0 = t := by
  simp [after]

theorem after_after (t : CancelToken) (m n : Nat) : (t.after m).after n = t.after (m + n) := by
  cases t with
  | mk arrival => cases arrival <;> simp [after, Nat.sub_sub]

theorem arrival_isSome_of_isCancelled {t : CancelToken} (seen : t.isCancelled = true) :
    t.arrival.isSome = true := by
  cases t with
  | mk arrival => cases arrival <;> simp_all [isCancelled]

end CancelToken

end CsgPreview.Pipeline
