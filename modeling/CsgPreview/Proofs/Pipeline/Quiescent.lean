import Mathlib
import CsgPreview.Pipeline.Coordinator

/-!
The compile lock between calls.

A compile takes the coordinator's guard when it starts and gives it up on every way out: a failed
parse, the end of instantiation whether it worked or not, and the end of a dependency wait,
settled or out of checks. Only a compile that waits for its dependencies returns with the guard
still held. The render worker holds a second guard until its result is collected. So between
calls the coordinator is idle, waiting on its dependencies, or done with a new tree; it holds its
guard exactly while it waits; and the lock's depth counts that guard and the render's.

Every operation of a session has one specification. The helpers that only report, parse or build
keep what the invariant reads of the coordinator; the exits of a compile give up the guard; and
every call keeps the invariant. A run of calls from a fresh coordinator then keeps it throughout.
-/

namespace CsgPreview.Pipeline

open Std.Do Files Script Config

set_option mvcgen.warning false

/-- What the lock invariant reads of a coordinator: its state, whether a compile holds its
guard, and whether a tree is present. -/
def Coordinator.lockView (c : Coordinator) : CompileState × Bool × Bool :=
  (c.state, c.compiling, c.tree.isSome)

/-- No compile holds the guard, and the coordinator is idle or done with a new tree. -/
def Coordinator.Released (c : Coordinator) : Prop :=
  c.compiling = false ∧ (c.state = .idle ∨ (c.state = .done true ∧ c.tree.isSome = true))

/-- The coordinator between calls: released, or waiting on its dependencies with the guard
held. -/
def Coordinator.Quiescent (c : Coordinator) : Prop :=
  c.Released ∨ (c.state = .waitingOnDependencies ∧ c.compiling = true)

namespace Coordinator

theorem quiescent_create (config budgets : PipelineConfig) :
    (Coordinator.create config budgets).Quiescent :=
  Or.inl ⟨rfl, Or.inl rfl⟩

namespace Quiescent

variable {c : Coordinator}

theorem state_mem (h : c.Quiescent) :
    c.state = .idle ∨ c.state = .waitingOnDependencies ∨ c.state = .done true := by
  rcases h with ⟨-, hidle | ⟨hdone, -⟩⟩ | ⟨hwaiting, -⟩
  · exact Or.inl hidle
  · exact Or.inr (Or.inr hdone)
  · exact Or.inr (Or.inl hwaiting)

theorem compiling_iff (h : c.Quiescent) :
    c.compiling = true ↔ c.state = .waitingOnDependencies := by
  rcases h with ⟨hreleased, hidle | ⟨hdone, -⟩⟩ | ⟨hwaiting, hcompiling⟩
  · simp [hreleased, hidle]
  · simp [hreleased, hdone]
  · simp [hwaiting, hcompiling]

theorem lockDepth_eq (h : c.Quiescent) :
    c.lockDepth =
      (if c.state = .waitingOnDependencies then 1 else 0) + (if c.pending.isSome then 1 else 0) := by
  have hguard :
      (if c.compiling then 1 else 0) = if c.state = .waitingOnDependencies then 1 else 0 := by
    by_cases hcompiling : c.compiling = true
    · simp [hcompiling, (h.compiling_iff).mp hcompiling]
    · simp [hcompiling, mt (h.compiling_iff).mpr hcompiling]
  rw [lockDepth, hguard]

theorem tree_of_done (h : c.Quiescent) (hdone : c.state = .done true) : c.tree.isSome = true := by
  rcases h with ⟨-, hidle | ⟨-, htree⟩⟩ | ⟨hwaiting, -⟩
  · simp [hidle] at hdone
  · exact htree
  · simp [hwaiting] at hdone

end Quiescent

end Coordinator

theorem triple_logged {α : Type} (x : Logged α) (Q : PostCond α (.arg (Array LogRecord) .pure)) :
    ⦃fun log => Q.1 (x.run log).run.1 (x.run log).run.2⦄ x ⦃Q⦄ := by
  intro log h
  simpa [Triple, WP.wp] using h

theorem Except.forall_ne_error_iff {ε : Type} {r : Except ε Unit} :
    (∀ e, ¬r = .error e) ↔ r = .ok () := by
  cases r <;> simp

namespace Session

/-! ### Steps that keep what the invariant reads -/

section Frame

variable (v : CompileState × Bool × Bool)

@[spec] theorem say_lockView (message : String) :
    ⦃fun s _ => ⌜s.coordinator.lockView = v⌝⦄ say message
    ⦃⇓ _ s _ => ⌜s.coordinator.lockView = v⌝⦄ := by
  mvcgen [say, tell, triple_logged]

@[spec] theorem warnUser_lockView (message : String) :
    ⦃fun s _ => ⌜s.coordinator.lockView = v⌝⦄ warnUser message
    ⦃⇓ _ s _ => ⌜s.coordinator.lockView = v⌝⦄ := by
  mvcgen [warnUser, tell, triple_logged]

@[spec] theorem errorUser_lockView (message : String) :
    ⦃fun s _ => ⌜s.coordinator.lockView = v⌝⦄ errorUser message
    ⦃⇓ _ s _ => ⌜s.coordinator.lockView = v⌝⦄ := by
  mvcgen [errorUser, tell, triple_logged]

@[spec] theorem invalidate_lockView :
    ⦃fun s _ => ⌜s.coordinator.lockView = v⌝⦄ invalidate
    ⦃⇓ _ s _ => ⌜s.coordinator.lockView = v⌝⦄ := by
  mvcgen [invalidate, tell]

@[spec] theorem logStats_lockView :
    ⦃fun s _ => ⌜s.coordinator.lockView = v⌝⦄ logStats
    ⦃⇓ _ s _ => ⌜s.coordinator.lockView = v⌝⦄ := by
  mvcgen [logStats, triple_logged]

@[spec] theorem reloadDocument_lockView :
    ⦃fun s _ => ⌜s.coordinator.lockView = v⌝⦄ reloadDocument
    ⦃⇓ _ s _ => ⌜s.coordinator.lockView = v⌝⦄ := by
  mvcgen [reloadDocument]
  all_goals simp_all

@[spec] theorem needsCompile_lockView (reload : Bool) :
    ⦃fun s _ => ⌜s.coordinator.lockView = v⌝⦄ needsCompile reload
    ⦃⇓ _ s _ => ⌜s.coordinator.lockView = v⌝⦄ := by
  mvcgen [needsCompile, update]
  all_goals simp_all +zetaDelta [Coordinator.lockView]

@[spec] theorem parseDocument_lockView :
    ⦃fun s _ => ⌜s.coordinator.lockView = v⌝⦄ parseDocument
    ⦃⇓ _ s _ => ⌜s.coordinator.lockView = v⌝⦄ := by
  mvcgen [parseDocument, tell, update, triple_logged]
  all_goals simp_all +zetaDelta [Coordinator.lockView]

@[spec] theorem evaluateTree_lockView (tree : Scene.SceneTree) :
    ⦃fun s _ => ⌜s.coordinator.lockView = v⌝⦄ evaluateTree tree
    ⦃post⟨fun _ s _ => ⌜s.coordinator.lockView = v⌝,
      fun _ s _ => ⌜s.coordinator.lockView = v⌝⟩⦄ := by
  mvcgen [evaluateTree, update, tell, triple_logged]

@[spec] theorem normalizeTerm_lockView (term : Csg.Term) :
    ⦃fun s _ => ⌜s.coordinator.lockView = v⌝⦄ normalizeTerm term
    ⦃post⟨fun _ s _ => ⌜s.coordinator.lockView = v⌝,
      fun _ s _ => ⌜s.coordinator.lockView = v⌝⟩⦄ := by
  mvcgen [normalizeTerm, triple_logged]

@[spec] theorem normalizePrimary_lockView (primary : Option Csg.Term) :
    ⦃fun s _ => ⌜s.coordinator.lockView = v⌝⦄ normalizePrimary primary
    ⦃post⟨fun _ s _ => ⌜s.coordinator.lockView = v⌝,
      fun _ s _ => ⌜s.coordinator.lockView = v⌝⟩⦄ := by
  cases primary <;> mvcgen [normalizePrimary]
  all_goals simp_all

@[spec] theorem normalizeOverlays_lockView (label : String) (terms : Array Csg.Term)
    (flags : Csg.Flags) :
    ⦃fun s _ => ⌜s.coordinator.lockView = v⌝⦄ normalizeOverlays label terms flags
    ⦃post⟨fun _ s _ => ⌜s.coordinator.lockView = v⌝,
      fun _ s _ => ⌜s.coordinator.lockView = v⌝⟩⦄ := by
  mvcgen [normalizeOverlays] invariants
  · post⟨fun _ s _ => ⌜s.coordinator.lockView = v⌝, fun _ s _ => ⌜s.coordinator.lockView = v⌝⟩
  all_goals simp_all

@[spec] theorem buildChains_lockView :
    ⦃fun s _ => ⌜s.coordinator.lockView = v⌝⦄ buildChains
    ⦃post⟨fun _ s _ => ⌜s.coordinator.lockView = v⌝,
      fun _ s _ => ⌜s.coordinator.lockView = v⌝⟩⦄ := by
  mvcgen [buildChains, update]
  all_goals simp_all +zetaDelta [Coordinator.lockView]

end Frame

/-! ### The exits of a compile -/

@[spec] theorem release_released :
    ⦃fun s _ => ⌜s.coordinator.state = .done true → s.coordinator.tree.isSome = true⌝⦄ release
    ⦃⇓ _ s _ => ⌜s.coordinator.Released⌝⦄ := by
  mvcgen [release, update]
  rename_i s _ _ _
  by_cases hdone : s.coordinator.state = .done true <;>
    simp_all +zetaDelta [Coordinator.Released]

@[spec] theorem instantiateRoot_tree (state : CompileState) (compiling : Bool) :
    ⦃fun s _ => ⌜s.coordinator.state = state ∧ s.coordinator.compiling = compiling⌝⦄
    instantiateRoot
    ⦃⇓ r s _ => ⌜s.coordinator.state = state ∧ s.coordinator.compiling = compiling ∧
      (r = .ok () → s.coordinator.tree.isSome = true)⌝⦄ := by
  mvcgen [instantiateRoot, update, triple_logged]
  all_goals simp_all +zetaDelta [Coordinator.lockView]

@[spec] theorem finish_released (changed invalidated : Bool) :
    ⦃fun _ _ => ⌜True⌝⦄ finish changed invalidated ⦃⇓ _ s _ => ⌜s.coordinator.Released⌝⦄ := by
  mvcgen [finish, update]
  all_goals simp_all +zetaDelta [Coordinator.lockView, Except.forall_ne_error_iff]

@[spec] theorem failParse_released (error : PipelineError) :
    ⦃fun _ _ => ⌜True⌝⦄ failParse error ⦃⇓ _ s _ => ⌜s.coordinator.Released⌝⦄ := by
  mvcgen [failParse, update]
  all_goals simp_all +zetaDelta [Coordinator.lockView]

@[spec] theorem returnToIdle_quiescent :
    ⦃fun s _ => ⌜s.coordinator.Quiescent⌝⦄ returnToIdle ⦃⇓ _ s _ => ⌜s.coordinator.Quiescent⌝⦄ := by
  mvcgen [returnToIdle, update]
  rename_i s _ _ _
  by_cases hdone : s.coordinator.state = .done true <;>
    simp_all +zetaDelta [Coordinator.Quiescent, Coordinator.Released]

@[spec] theorem recompile_lockView (state : CompileState) (compiling tree : Bool) :
    ⦃fun s _ => ⌜s.coordinator.lockView = (state, compiling, tree)⌝⦄ recompile
    ⦃⇓ _ s _ => ⌜s.coordinator.lockView = (.recompiling, compiling, tree)⌝⦄ := by
  mvcgen [recompile, update]
  all_goals simp_all +zetaDelta [Coordinator.lockView]

/-! ### Every call keeps the invariant -/

@[spec] theorem compileWith_quiescent (reload forceDone : Bool) :
    ⦃fun _ _ => ⌜True⌝⦄ compileWith reload forceDone ⦃⇓ _ s _ => ⌜s.coordinator.Quiescent⌝⦄ := by
  unfold compileWith
  mvcgen [update]
  case vc1 | vc2 | vc3 | vc5 =>
    -- the pass ends through `failParse` or `finish`, or waits on dependencies: all settled
    simp_all +zetaDelta [Coordinator.lockView, Coordinator.Quiescent]
  case vc4 =>
    -- without a compile there is nothing to wait on
    simp at ‹(reload && false && _) = true›

@[spec] theorem compile_quiescent (reload : Bool) :
    ⦃fun _ _ => ⌜True⌝⦄ compile reload ⦃⇓ _ s _ => ⌜s.coordinator.Quiescent⌝⦄ := by
  mvcgen [compile]

@[spec] theorem resumeDependencies_quiescent :
    ⦃fun s _ => ⌜s.coordinator.Quiescent⌝⦄ resumeDependencies
    ⦃⇓ _ s _ => ⌜s.coordinator.Quiescent⌝⦄ := by
  mvcgen [resumeDependencies, update, triple_logged]
  all_goals simp_all +zetaDelta [Coordinator.lockView, Coordinator.Quiescent, Coordinator.Released]

@[spec] theorem settle_quiescent (fuel : Nat) (step : CompileStep) :
    ⦃fun s _ => ⌜s.coordinator.Quiescent⌝⦄ compileBlocking.settle fuel step
    ⦃⇓ _ s _ => ⌜s.coordinator.Quiescent⌝⦄ := by
  induction fuel generalizing step with
  | zero => cases step <;> mvcgen [compileBlocking.settle]
  | succ fuel ih => cases step <;> mvcgen [compileBlocking.settle, ih]

@[spec] theorem compileBlocking_quiescent (reload : Bool) :
    ⦃fun _ _ => ⌜True⌝⦄ compileBlocking reload ⦃⇓ _ s _ => ⌜s.coordinator.Quiescent⌝⦄ := by
  mvcgen [compileBlocking]

@[spec] theorem buildProducts_quiescent :
    ⦃fun s _ => ⌜s.coordinator.Quiescent⌝⦄ buildProducts
    ⦃⇓ _ s _ => ⌜s.coordinator.Quiescent⌝⦄ := by
  mvcgen [buildProducts, update]
  all_goals simp_all +zetaDelta [Coordinator.lockView, Coordinator.Quiescent, Coordinator.Released]

@[spec] theorem preview_quiescent :
    ⦃fun _ _ => ⌜True⌝⦄ preview ⦃⇓ _ s _ => ⌜s.coordinator.Quiescent⌝⦄ := by
  mvcgen [preview]

@[spec] theorem render_quiescent :
    ⦃fun s _ => ⌜s.coordinator.Quiescent⌝⦄ render ⦃⇓ _ s _ => ⌜s.coordinator.Quiescent⌝⦄ := by
  mvcgen [render, update]

@[spec] theorem waitRender_quiescent :
    ⦃fun s _ => ⌜s.coordinator.Quiescent⌝⦄ waitRender ⦃⇓ _ s _ => ⌜s.coordinator.Quiescent⌝⦄ := by
  mvcgen [waitRender, update] invariants
  · ⇓ _ s _ => ⌜s.coordinator.Quiescent⌝
  all_goals simp_all +zetaDelta [Coordinator.lockView, Coordinator.Quiescent, Coordinator.Released]

@[spec] theorem setDocumentPath_quiescent (path : Option String) :
    ⦃fun s _ => ⌜s.coordinator.Quiescent⌝⦄ setDocumentPath path
    ⦃⇓ _ s _ => ⌜s.coordinator.Quiescent⌝⦄ := by
  mvcgen [setDocumentPath, update]

@[spec] theorem setVariable_quiescent (name : String) (value : Value) :
    ⦃fun s _ => ⌜s.coordinator.Quiescent⌝⦄ setVariable name value
    ⦃⇓ _ s _ => ⌜s.coordinator.Quiescent⌝⦄ := by
  mvcgen [setVariable, update]

@[spec] theorem define_quiescent (assignment : Assignment) :
    ⦃fun s _ => ⌜s.coordinator.Quiescent⌝⦄ define assignment
    ⦃⇓ _ s _ => ⌜s.coordinator.Quiescent⌝⦄ := by
  mvcgen [define, update]

@[spec] theorem applyConfig_quiescent (config : PipelineConfig) :
    ⦃fun s _ => ⌜s.coordinator.Quiescent⌝⦄ applyConfig config
    ⦃⇓ _ s _ => ⌜s.coordinator.Quiescent⌝⦄ := by
  mvcgen [applyConfig, update, triple_logged]

@[spec] theorem cancel_quiescent :
    ⦃fun s _ => ⌜s.coordinator.Quiescent⌝⦄ cancel ⦃⇓ _ s _ => ⌜s.coordinator.Quiescent⌝⦄ := by
  mvcgen [cancel, update]

@[spec] theorem cancelDuring_quiescent (checks : Nat) :
    ⦃fun s _ => ⌜s.coordinator.Quiescent⌝⦄ cancelDuring checks
    ⦃⇓ _ s _ => ⌜s.coordinator.Quiescent⌝⦄ := by
  mvcgen [cancelDuring, update]

@[spec] theorem flushCaches_quiescent :
    ⦃fun s _ => ⌜s.coordinator.Quiescent⌝⦄ flushCaches ⦃⇓ _ s _ => ⌜s.coordinator.Quiescent⌝⦄ := by
  mvcgen [flushCaches, update, triple_logged]

end Session

/-! ### Runs of calls -/

/-- What happens between two points of a session: one call, a cancel that another thread sends
while the next job runs, or a change the editor or the file system makes on its own (new text, a
new answer to the reload question, files written or removed). -/
inductive SessionCall where
  | compile (reload : Bool)
  | compileBlocking (reload : Bool)
  | resumeDependencies
  | buildProducts
  | preview
  | render
  | waitRender
  | setDocumentPath (path : Option String)
  | setVariable (name : String) (value : Value)
  | define (assignment : Assignment)
  | applyConfig (config : PipelineConfig)
  | cancel
  | cancelDuring (checks : Nat)
  | flushCaches
  | external (document : Document) (files : FileStore)

def SessionCall.run : SessionCall → SessionM Unit
  | .compile reload => (fun _ => ()) <$> Session.compile reload
  | .compileBlocking reload => (fun _ => ()) <$> Session.compileBlocking reload
  | .resumeDependencies => (fun _ => ()) <$> Session.resumeDependencies
  | .buildProducts => (fun _ => ()) <$> Session.buildProducts
  | .preview => (fun _ => ()) <$> Session.preview
  | .render => (fun _ => ()) <$> Session.render
  | .waitRender => (fun _ => ()) <$> Session.waitRender
  | .setDocumentPath path => Session.setDocumentPath path
  | .setVariable name value => Session.setVariable name value
  | .define assignment => Session.define assignment
  | .applyConfig config => Session.applyConfig config
  | .cancel => Session.cancel
  | .cancelDuring checks => Session.cancelDuring checks
  | .flushCaches => Session.flushCaches
  | .external document files => modify fun s => { s with document, files }

def runCalls : List SessionCall → SessionM Unit
  | [] => pure ()
  | call :: calls => do
    call.run
    runCalls calls

@[spec] theorem SessionCall.run_quiescent (call : SessionCall) :
    ⦃fun s _ => ⌜s.coordinator.Quiescent⌝⦄ call.run ⦃⇓ _ s _ => ⌜s.coordinator.Quiescent⌝⦄ := by
  cases call <;> mvcgen [SessionCall.run]

theorem runCalls_quiescent (calls : List SessionCall) :
    ⦃fun s _ => ⌜s.coordinator.Quiescent⌝⦄ runCalls calls
    ⦃⇓ _ s _ => ⌜s.coordinator.Quiescent⌝⦄ := by
  induction calls with
  | nil => mvcgen [runCalls]
  | cons call calls ih => mvcgen [runCalls, ih]

theorem Session.quiescent_of_triple {α : Type} {m : SessionM α}
    (h : ⦃fun s _ => ⌜s.coordinator.Quiescent⌝⦄ m ⦃⇓ _ s _ => ⌜s.coordinator.Quiescent⌝⦄)
    {s : Session} (hs : s.coordinator.Quiescent) (log : Array LogRecord) :
    ((m.run s).run log).run.1.2.coordinator.Quiescent := by
  have hpost := h s log hs
  simpa [Triple, WP.wp] using hpost

/-- From a fresh coordinator, whatever calls are made and whatever the editor and the files do
in between: the coordinator is idle, waiting on its dependencies or done with a change; it holds
its compile guard exactly while it waits; the lock's depth counts that guard and the render's;
and a change it is done with left a tree. -/
theorem quiescent_between_calls (config budgets : PipelineConfig) (document : Document)
    (files : FileStore) (calls : List SessionCall) (log : Array LogRecord) :
    let c := (((runCalls calls).run ⟨Coordinator.create config budgets, document, files, {}, #[]⟩).run
      log).run.1.2.coordinator
    (c.state = .idle ∨ c.state = .waitingOnDependencies ∨ c.state = .done true) ∧
      (c.compiling = true ↔ c.state = .waitingOnDependencies) ∧
      c.lockDepth =
        (if c.state = .waitingOnDependencies then 1 else 0) + (if c.pending.isSome then 1 else 0) ∧
      (c.state = .done true → c.tree.isSome = true) := by
  intro c
  have hq : c.Quiescent := Session.quiescent_of_triple (runCalls_quiescent calls)
    (Coordinator.quiescent_create config budgets) log
  exact ⟨hq.state_mem, hq.compiling_iff, hq.lockDepth_eq, hq.tree_of_done⟩

end CsgPreview.Pipeline
