import Mathlib
import CsgPreview.Pipeline.Scheduler
import CsgPreview.Proofs.Pipeline.Overlays

/-!
The auto-reload scheduler and the coordinator it drives stay in step.

A compile step leaves the coordinator in one of three places: waiting on its dependencies,
`Done(changed)` with a new tree exactly when its outcome asks for the products, or idle. The
scheduler acts on each: it sets a retry time for a wait, and builds the products exactly for a
new tree, which returns the coordinator to idle. So between calls the scheduler has a retry time
exactly while the coordinator waits, and the coordinator is idle otherwise; a tick while it waits
resumes the dependency check and never compiles; and each tick builds products exactly when it
put a new tree in place.

A compile that kept unsaved edits over a newer file switches polling off with no retry left, and
then nothing is ever due: every tick until polling is enabled again does nothing.

The specifications here describe the state and the tree generation of the coordinator through
every step of a compile and a build; they take precedence over the narrower ones of the lock
invariant, the failures and the overlays.
-/

namespace CsgPreview.Pipeline

open Std.Do Files Script Scene Config

set_option mvcgen.warning false

def Coordinator.cycleView (c : Coordinator) : CompileState × Nat := (c.state, c.generation)

/-- Where a compile step leaves the coordinator, against the generation `g` before it: waiting on
its dependencies with no new tree; or done, in `Done(changed)` with a new tree exactly when its
outcome asks for the products to be built, and idle with the old tree otherwise. -/
def CompileStep.Leaves (g : Nat) : CompileStep → Coordinator → Prop
  | .waiting _, c => c.cycleView = (.waitingOnDependencies, g)
  | .done o, c =>
    if o.shouldBuild = true then c.cycleView = (.done true, g + 1) else c.cycleView = (.idle, g)

namespace Session

theorem triple_of_run {α : Type} {m : SessionM α} {P : Session → Prop}
    {Q : α → Session → Prop}
    (h : ∀ s log, P s → Q ((m.run s).run log).run.1.1 ((m.run s).run log).run.1.2) :
    ⦃fun s _ => ⌜P s⌝⦄ m ⦃⇓ r s _ => ⌜Q r s⌝⦄ := by
  intro s log hs
  simpa [Triple, WP.wp] using h s log hs

/-! ### Steps that keep the cycle -/

section Frame

variable (v : CompileState × Nat)

@[spec 4000] theorem parseDocument_cycleView :
    ⦃fun s _ => ⌜s.coordinator.cycleView = v⌝⦄ parseDocument
    ⦃⇓ _ s _ => ⌜s.coordinator.cycleView = v⌝⦄ := by
  unfold parseDocument
  mvcgen [tell, update, triple_logged]
  all_goals simp_all +zetaDelta [Coordinator.cycleView]

@[spec 4000] theorem evaluateTree_cycleView (tree : SceneTree) :
    ⦃fun s _ => ⌜s.coordinator.cycleView = v⌝⦄ evaluateTree tree
    ⦃post⟨fun _ s _ => ⌜s.coordinator.cycleView = v⌝,
      fun _ s _ => ⌜s.coordinator.cycleView = v⌝⟩⦄ := by
  unfold evaluateTree
  mvcgen [update, tell, triple_logged]

@[spec 4000] theorem normalizeTerm_cycleView (term : Csg.Term) :
    ⦃fun s _ => ⌜s.coordinator.cycleView = v⌝⦄ normalizeTerm term
    ⦃post⟨fun _ s _ => ⌜s.coordinator.cycleView = v⌝,
      fun _ s _ => ⌜s.coordinator.cycleView = v⌝⟩⦄ := by
  unfold normalizeTerm
  mvcgen [triple_logged]

@[spec 4000] theorem needsCompile_cycleView (reload : Bool) :
    ⦃fun s _ => ⌜s.coordinator.cycleView = v⌝⦄ needsCompile reload
    ⦃⇓ _ s _ => ⌜s.coordinator.cycleView = v⌝⦄ := by
  unfold needsCompile
  mvcgen [update]
  all_goals simp_all +zetaDelta [Coordinator.cycleView]

@[spec 4000] theorem normalizePrimary_cycleView (primary : Option Csg.Term) :
    ⦃fun s _ => ⌜s.coordinator.cycleView = v⌝⦄ normalizePrimary primary
    ⦃post⟨fun _ s _ => ⌜s.coordinator.cycleView = v⌝,
      fun _ s _ => ⌜s.coordinator.cycleView = v⌝⟩⦄ := by
  unfold normalizePrimary
  cases primary <;> mvcgen
  all_goals simp_all

@[spec 4000] theorem normalizeOverlays_cycleView (label : String) (terms : Array Csg.Term)
    (flags : Csg.Flags) :
    ⦃fun s _ => ⌜s.coordinator.cycleView = v⌝⦄ normalizeOverlays label terms flags
    ⦃post⟨fun _ s _ => ⌜s.coordinator.cycleView = v⌝,
      fun _ s _ => ⌜s.coordinator.cycleView = v⌝⟩⦄ := by
  unfold normalizeOverlays
  mvcgen invariants
  · post⟨fun _ s _ => ⌜s.coordinator.cycleView = v⌝, fun _ s _ => ⌜s.coordinator.cycleView = v⌝⟩
  all_goals simp_all

@[spec 4000] theorem buildChains_cycleView :
    ⦃fun s _ => ⌜s.coordinator.cycleView = v⌝⦄ buildChains
    ⦃post⟨fun _ s _ => ⌜s.coordinator.cycleView = v⌝,
      fun _ s _ => ⌜s.coordinator.cycleView = v⌝⟩⦄ := by
  unfold buildChains
  mvcgen [update]
  all_goals simp_all +zetaDelta [Coordinator.cycleView]

end Frame

/-! ### The exits of a compile -/

@[spec 4000] theorem release_cycleView (state : CompileState) (g : Nat) :
    ⦃fun s _ => ⌜s.coordinator.cycleView = (state, g)⌝⦄ release
    ⦃⇓ _ s _ => ⌜s.coordinator.cycleView = (if state = .done true then state else .idle, g)⌝⦄ := by
  unfold release
  mvcgen [update]
  all_goals simp_all +zetaDelta [Coordinator.cycleView]

@[spec 4000] theorem instantiateRoot_cycleView (state : CompileState) (g : Nat) :
    ⦃fun s _ => ⌜s.coordinator.cycleView = (state, g)⌝⦄ instantiateRoot
    ⦃⇓ r s _ => ⌜s.coordinator.cycleView = (state, if r.isOk then g + 1 else g)⌝⦄ := by
  unfold instantiateRoot
  mvcgen [update, triple_logged]
  all_goals simp_all +zetaDelta [Coordinator.cycleView, Except.isOk, Except.toBool]

@[spec 4000] theorem failParse_leaves (error : PipelineError) (g : Nat) :
    ⦃fun s _ => ⌜s.coordinator.generation = g⌝⦄ failParse error
    ⦃⇓ o s _ => ⌜(CompileStep.done o).Leaves g s.coordinator⌝⦄ := by
  unfold failParse
  mvcgen [update]
  all_goals simp_all +zetaDelta [Coordinator.cycleView, CompileStep.Leaves,
    CompileOutcome.shouldBuild]

@[spec 4000] theorem finish_leaves (changed invalidated : Bool) (g : Nat) :
    ⦃fun s _ => ⌜s.coordinator.generation = g⌝⦄ finish changed invalidated
    ⦃⇓ o s _ => ⌜(CompileStep.done o).Leaves g s.coordinator⌝⦄ := by
  unfold finish
  mvcgen [update]
  all_goals simp_all +zetaDelta [Coordinator.cycleView, CompileStep.Leaves,
    CompileOutcome.shouldBuild, Except.isOk, Except.toBool, Except.forall_ne_error_iff]

@[spec 4000] theorem recompile_cycleView (state : CompileState) (g : Nat) :
    ⦃fun s _ => ⌜s.coordinator.cycleView = (state, g)⌝⦄ recompile
    ⦃⇓ _ s _ => ⌜s.coordinator.cycleView = (.recompiling, g)⌝⦄ := by
  unfold recompile
  mvcgen [update]
  all_goals simp_all +zetaDelta [Coordinator.cycleView]

/-! ### Compiles and builds -/

@[spec 4000] theorem compileWith_leaves (reload forceDone : Bool) (g : Nat) :
    ⦃fun s _ => ⌜s.coordinator.generation = g⌝⦄ compileWith reload forceDone
    ⦃⇓ step s _ => ⌜step.Leaves g s.coordinator⌝⦄ := by
  unfold compileWith
  mvcgen [update]
  case vc1 | vc3 | vc5 =>
    -- the pass ends through `failParse` or `finish`, at the generation it started from
    simp_all +zetaDelta [Coordinator.cycleView, apply_ite]
  case vc2 =>
    -- a reload that recompiled a design with dependencies waits on them
    simp_all +zetaDelta [Coordinator.cycleView, CompileStep.Leaves, apply_ite]
  case vc4 =>
    -- without a compile there is nothing to wait on
    simp at ‹(reload && false && _) = true›

@[spec 4000] theorem compile_leaves (reload : Bool) (g : Nat) :
    ⦃fun s _ => ⌜s.coordinator.generation = g⌝⦄ compile reload
    ⦃⇓ step s _ => ⌜step.Leaves g s.coordinator⌝⦄ := by
  unfold compile
  mvcgen

@[spec 4000] theorem resumeDependencies_leaves (state : CompileState) (g : Nat) :
    ⦃fun s _ => ⌜s.coordinator.cycleView = (state, g)⌝⦄ resumeDependencies
    ⦃⇓ step s _ => ⌜state = .waitingOnDependencies → step.Leaves g s.coordinator⌝⦄ := by
  unfold resumeDependencies
  mvcgen [update, triple_logged]
  all_goals simp_all +zetaDelta [Coordinator.cycleView, CompileStep.Leaves,
    CompileOutcome.shouldBuild]

@[spec 4000] theorem returnToIdle_cycleView (state : CompileState) (g : Nat) :
    ⦃fun s _ => ⌜s.coordinator.cycleView = (state, g)⌝⦄ returnToIdle
    ⦃⇓ _ s _ => ⌜s.coordinator.cycleView = (if state = .done true then .idle else state, g)⌝⦄ := by
  unfold returnToIdle
  mvcgen [update]
  all_goals simp_all +zetaDelta [Coordinator.cycleView]

@[spec 4000] theorem buildProducts_cycleView (state : CompileState) (g : Nat) :
    ⦃fun s _ => ⌜s.coordinator.cycleView = (state, g)⌝⦄ buildProducts
    ⦃⇓ _ s _ => ⌜s.coordinator.cycleView = (if state = .done true then .idle else state, g)⌝⦄ := by
  unfold buildProducts
  mvcgen [update]
  all_goals simp_all +zetaDelta [Coordinator.cycleView]

end Session

def TickResult.builtProducts : TickResult → Bool
  | .compiled _ (some _) => true
  | _ => false

namespace Scheduler

/-- The scheduler and the coordinator it drives agree: a retry is set exactly while the
coordinator waits on its dependencies, and otherwise the coordinator is idle. -/
def InStep (sch : Scheduler) (c : Coordinator) : Prop :=
  (sch.retryAt.isSome = true ∧ c.state = .waitingOnDependencies) ∨
    (sch.retryAt = none ∧ c.state = .idle)

/-- Polling is off and no retry is set, so nothing is ever due. -/
def Dormant (sch : Scheduler) : Prop := sch.nextPoll = none ∧ sch.retryAt = none

/-- What a tick leaves, against the generation `g` before it: the scheduler and the coordinator
in step, a new tree exactly when it built products, and nothing due once it kept unsaved edits
over a newer file. -/
def Settled (g : Nat) (r : TickResult × Scheduler) (c : Coordinator) : Prop :=
  r.2.InStep c ∧ c.generation = g + (if r.1.builtProducts then 1 else 0) ∧
    ∀ o p, r.1 = .compiled o p → o.reloadDeclined = true → r.2.Dormant

theorem inStep_create (interval : Nat) (config budgets : Config.PipelineConfig) :
    ({ interval } : Scheduler).InStep (Coordinator.create config budgets) :=
  Or.inr ⟨rfl, rfl⟩

namespace InStep

variable {sch : Scheduler} {c : Coordinator}

theorem isWaiting_iff (h : sch.InStep c) :
    sch.isWaiting = true ↔ c.state = .waitingOnDependencies := by
  rcases h with ⟨pending, waiting⟩ | ⟨free, idle⟩
  · simp [isWaiting, pending, waiting]
  · simp [isWaiting, free, idle]

theorem idle_of_not_waiting (h : sch.InStep c) (notWaiting : c.state ≠ .waitingOnDependencies) :
    c.state = .idle := by
  rcases h with ⟨-, waiting⟩ | ⟨-, idle⟩
  · exact absurd waiting notWaiting
  · exact idle

theorem waiting (h : sch.InStep c) (waiting : c.state = .waitingOnDependencies) :
    ∃ retry, sch.retryAt = some retry := by
  rcases h with ⟨pending, -⟩ | ⟨-, idle⟩
  · exact Option.isSome_iff_exists.mp pending
  · simp [idle] at waiting

end InStep

theorem settle_settled (sch : Scheduler) (now g : Nat) (step : CompileStep) :
    ⦃fun s _ => ⌜sch.retryAt = none ∧ step.Leaves g s.coordinator⌝⦄ sch.settle now step
    ⦃⇓ r s _ => ⌜Settled g r s.coordinator⌝⦄ := by
  cases step with
  | waiting after =>
    unfold settle
    mvcgen
    all_goals simp_all [Settled, InStep, CompileStep.Leaves, Coordinator.cycleView,
      TickResult.builtProducts]
  | done outcome =>
    unfold settle
    mvcgen [triple_logged]
    all_goals simp_all +zetaDelta [Settled, InStep, Dormant, disable, CompileStep.Leaves,
      Coordinator.cycleView, TickResult.builtProducts]

theorem tick_settled (sch : Scheduler) (now g : Nat) :
    ⦃fun s _ => ⌜sch.InStep s.coordinator ∧ s.coordinator.generation = g⌝⦄ sch.tick now
    ⦃⇓ r s _ => ⌜Settled g r s.coordinator⌝⦄ := by
  unfold tick
  mvcgen [settle_settled, triple_logged]
  all_goals simp_all +zetaDelta [Settled, InStep, Coordinator.cycleView, TickResult.builtProducts,
    ← Option.eq_none_iff_forall_ne_some]

theorem tick_inStep (sch : Scheduler) (now : Nat) :
    ⦃fun s _ => ⌜sch.InStep s.coordinator⌝⦄ sch.tick now
    ⦃⇓ r s _ => ⌜r.2.InStep s.coordinator⌝⦄ :=
  Session.triple_of_run fun s log inStep =>
    (Session.run_of_triple (tick_settled sch now s.coordinator.generation) ⟨inStep, rfl⟩ log).1

theorem tick_of_retry {sch : Scheduler} {retry : Nat} (pending : sch.retryAt = some retry)
    (now : Nat) :
    sch.tick now = if now < retry then pure (.idle, sch)
      else Session.resumeDependencies >>= settle { sch with retryAt := none } now := by
  unfold tick
  simp only [pending]

theorem tick_of_dormant {sch : Scheduler} (h : sch.Dormant) (now : Nat) :
    sch.tick now = pure (.idle, sch) := by
  unfold tick
  simp [h.1, h.2]

end Scheduler

/-! ### Runs of calls -/

/-- What drives an auto-reloading coordinator: the scheduler's own operations at the instants the
caller gives, and the changes the editor and the file system make on their own (new text, a new
answer to the reload question, files written or removed). -/
inductive AutoReloadCall where
  | enable (now : Nat)
  | pollAt (now : Nat)
  | disable
  | tick (now : Nat)
  | external (document : Document) (files : FileStore)

namespace AutoReloadCall

def enables : AutoReloadCall → Bool
  | .enable _ => true
  | _ => false

def run (sch : Scheduler) : AutoReloadCall → SessionM (Option TickResult × Scheduler)
  | .enable now => pure (none, sch.enable now)
  | .pollAt now => pure (none, sch.pollAt now)
  | .disable => pure (none, sch.disable)
  | .tick now => do
    let (r, sch) ← sch.tick now
    return (some r, sch)
  | .external document files => do
    modify fun s => { s with document, files }
    return (none, sch)

theorem run_inStep (sch : Scheduler) (call : AutoReloadCall) :
    ⦃fun s _ => ⌜sch.InStep s.coordinator⌝⦄ call.run sch
    ⦃⇓ r s _ => ⌜r.2.InStep s.coordinator⌝⦄ := by
  cases call with
  | tick now => mvcgen [run, Scheduler.tick_inStep]
  | _ =>
    mvcgen [run]
    all_goals simp_all [Scheduler.InStep, Scheduler.enable, Scheduler.pollAt, apply_ite]

theorem run_of_dormant {call : AutoReloadCall} (noEnable : call.enables = false)
    (sch : Scheduler) (c : Coordinator) :
    ⦃fun s _ => ⌜sch.Dormant ∧ s.coordinator = c⌝⦄ call.run sch
    ⦃⇓ r s _ => ⌜(∀ t ∈ r.1, t = .idle) ∧ r.2.Dormant ∧ s.coordinator = c⌝⦄ := by
  cases call with
  | enable now => simp [enables] at noEnable
  | tick now =>
    by_cases dormant : sch.Dormant
    · simp only [run, Scheduler.tick_of_dormant dormant]
      mvcgen
      simp_all
    · intro s log pre
      exact absurd pre.1 dormant
  | _ =>
    mvcgen [run]
    all_goals simp_all +zetaDelta [Scheduler.Dormant, Scheduler.pollAt, Scheduler.disable]

end AutoReloadCall

def runAutoReload : List AutoReloadCall → Scheduler → SessionM (List TickResult × Scheduler)
  | [], sch => pure ([], sch)
  | call :: calls, sch => do
    let (r, sch) ← call.run sch
    let (rs, sch) ← runAutoReload calls sch
    return (r.toList ++ rs, sch)

theorem runAutoReload_inStep (calls : List AutoReloadCall) (sch : Scheduler) :
    ⦃fun s _ => ⌜sch.InStep s.coordinator⌝⦄ runAutoReload calls sch
    ⦃⇓ r s _ => ⌜r.2.InStep s.coordinator⌝⦄ := by
  induction calls generalizing sch with
  | nil => mvcgen [runAutoReload]
  | cons call calls ih => mvcgen [runAutoReload, AutoReloadCall.run_inStep, ih]

theorem runAutoReload_of_dormant (calls : List AutoReloadCall)
    (noEnable : ∀ call ∈ calls, call.enables = false) (sch : Scheduler) (c : Coordinator) :
    ⦃fun s _ => ⌜sch.Dormant ∧ s.coordinator = c⌝⦄ runAutoReload calls sch
    ⦃⇓ r s _ => ⌜(∀ t ∈ r.1, t = .idle) ∧ s.coordinator = c⌝⦄ := by
  induction calls generalizing sch with
  | nil =>
    mvcgen [runAutoReload]
    simp_all
  | cons call calls ih =>
    have first := AutoReloadCall.run_of_dormant (noEnable call (by simp))
    have rest := ih fun later mem => noEnable later (by simp [mem])
    mvcgen [runAutoReload, first, rest]
    · -- the rest of the calls start from a dormant scheduler and the same coordinator
      rename_i stepped
      exact stepped.2
    · rename_i stepped _ _ _ ran
      refine ⟨fun t mem => ?_, ran.2⟩
      rcases List.mem_append.mp mem with now | later
      · exact stepped.1 t (Option.mem_toList.mp now)
      · exact ran.1 t later

/-- A scheduler and the coordinator it drives, both fresh, after any calls at any instants and
any changes to the editor and the files: the scheduler waits exactly while the coordinator waits
on its dependencies, and the coordinator is idle otherwise; the next tick puts a new tree in
place exactly when it builds products; while the coordinator waits, a tick only waits for the
retry time or resumes the dependency check, and never compiles; and once a tick has kept unsaved
edits over a newer file, no later tick does anything until polling is enabled again. -/
theorem scheduler_stays_in_step (config budgets : PipelineConfig) (document : Document)
    (files : FileStore) (interval : Nat) (calls : List AutoReloadCall) (log : Array LogRecord) :
    let run := (((runAutoReload calls { interval }).run
      ⟨Coordinator.create config budgets, document, files, {}, #[]⟩).run log).run.1
    let sch := run.1.2
    let s := run.2
    ((sch.isWaiting = true ↔ s.coordinator.state = .waitingOnDependencies) ∧
      (s.coordinator.state ≠ .waitingOnDependencies → s.coordinator.state = .idle)) ∧
    (∀ now tickLog, let ticked := (((sch.tick now).run s).run tickLog).run.1
      ticked.2.coordinator.generation =
        s.coordinator.generation + if ticked.1.1.builtProducts then 1 else 0) ∧
    (s.coordinator.state = .waitingOnDependencies → ∃ retry, ∀ now, sch.tick now =
      if now < retry then pure (.idle, sch)
      else Session.resumeDependencies >>= Scheduler.settle { sch with retryAt := none } now) ∧
    (∀ now tickLog outcome products, let ticked := (((sch.tick now).run s).run tickLog).run.1
      ticked.1.1 = .compiled outcome products → outcome.reloadDeclined = true →
      ∀ later laterLog, (∀ call ∈ later, call.enables = false) →
        let after := (((runAutoReload later ticked.1.2).run ticked.2).run laterLog).run.1
        (∀ r ∈ after.1.1, r = .idle) ∧ after.2.coordinator = ticked.2.coordinator) := by
  intro run sch s
  have inStep : sch.InStep s.coordinator :=
    Session.run_of_triple (runAutoReload_inStep calls _)
      (Scheduler.inStep_create interval config budgets) log
  refine ⟨⟨inStep.isWaiting_iff, inStep.idle_of_not_waiting⟩, ?built, ?waiting, ?declined⟩
  case built =>
    intro now tickLog
    exact (Session.run_of_triple (Scheduler.tick_settled sch now _) ⟨inStep, rfl⟩ tickLog).2.1
  case waiting =>
    intro waiting
    obtain ⟨retry, pending⟩ := inStep.waiting waiting
    exact ⟨retry, Scheduler.tick_of_retry pending⟩
  case declined =>
    intro now tickLog outcome products ticked compiled declined later laterLog noEnable
    have settled :=
      Session.run_of_triple (Scheduler.tick_settled sch now _) ⟨inStep, rfl⟩ tickLog
    have dormant := settled.2.2 outcome products compiled declined
    exact Session.run_of_triple (runAutoReload_of_dormant later noEnable _ _) ⟨dormant, rfl⟩
      laterLog

end CsgPreview.Pipeline
