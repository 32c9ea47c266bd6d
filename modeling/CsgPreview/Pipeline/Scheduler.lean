import CsgPreview.Pipeline.Coordinator

/-!
Auto-reload: polling the files at a fixed interval on a clock the caller gives.

The scheduler keeps no timer. Enabled, it has a next poll; a poll that is due checks the files
and compiles what changed, unless the compile lock is held, and the next poll is one interval
after it. A compile waiting for its dependencies sets a retry time, which comes before any poll;
at that time the dependency check is resumed. A compile that kept unsaved edits over a newer
file switches polling off. Times are milliseconds from the start of the session.
-/

namespace CsgPreview.Pipeline

/-- What one tick did: nothing was due; a poll came due while the pipeline was locked; a
compile waits for its dependencies; or a compile finished, with the products built when it
changed something. -/
inductive TickResult where
  | idle
  | locked
  | waiting
  | compiled (outcome : CompileOutcome) (products : Option (Except PipelineError CompiledChains))

/-- The poll and retry times. -/
structure Scheduler where
  interval : Nat
  nextPoll : Option Nat := none
  retryAt : Option Nat := none
  deriving Inhabited, Repr

namespace Scheduler

def enable (s : Scheduler) (now : Nat) : Scheduler :=
  if s.nextPoll.isNone then { s with nextPoll := some (now + s.interval) } else s

def pollAt (s : Scheduler) (now : Nat) : Scheduler :=
  if s.nextPoll.isSome then { s with nextPoll := some now } else s

def disable (s : Scheduler) : Scheduler := { s with nextPoll := none }

def isEnabled (s : Scheduler) : Bool := s.nextPoll.isSome

def isWaiting (s : Scheduler) : Bool := s.retryAt.isSome

def nextDeadline (s : Scheduler) : Option Nat :=
  match s.retryAt with
  | some retry => some retry
  | none => s.nextPoll

def settle (s : Scheduler) (now : Nat) : CompileStep → SessionM (TickResult × Scheduler)
  | .waiting after => pure (.waiting, { s with retryAt := some (now + after) })
  | .done outcome => do
    let mut s := s
    if outcome.reloadDeclined then
      report .debug .scheduler "Auto-reload switched off, unsaved edits were kept"
      s := s.disable
    let products ← if outcome.shouldBuild then some <$> Session.buildProducts else pure none
    if s.nextPoll.isSome then s := { s with nextPoll := some (now + s.interval) }
    return (.compiled outcome products, s)

def tick (s : Scheduler) (now : Nat) : SessionM (TickResult × Scheduler) := do
  if let some retry := s.retryAt then
    if now < retry then return (.idle, s)
    let step ← Session.resumeDependencies
    return ← { s with retryAt := none }.settle now step
  let some due := s.nextPoll | return (.idle, s)
  if now < due then return (.idle, s)
  let s := { s with nextPoll := some (now + s.interval) }
  if (← get).coordinator.isLocked then
    report .debug .scheduler "Auto-reload poll skipped, pipeline is locked"
    return (.locked, s)
  let step ← Session.compile true
  s.settle now step

end Scheduler

end CsgPreview.Pipeline
