import Mathlib
import CsgPreview.Proofs.Pipeline.Quiescent

/-!
Failures leave the previous generation in place.

A generation is what a successful compile and build put in place: the design with the files it
watches, the scene tree with its generation number, and the chains built from it. A compile
reports an error without a change exactly when its parse failed, and an error with a change when
the tree of a parsed design could not be instantiated.

A failed parse keeps the whole generation and returns the coordinator to idle: the parse only
touches the design and the watched files once it has succeeded, and checking the top-level file
records its fingerprint, not the dependencies. A failed instantiation drops the tree and the
chains together, so no chain outlives the tree it came from. A failed build keeps the generation
too, because the new chains are put in place only at its very end; the caches it filled stay.
-/

namespace CsgPreview.Pipeline

open Std.Do Files Script Scene

set_option mvcgen.warning false

/-- What a generation consists of: the design, the tree, the chains, the generation number and
the dependencies watched with their fingerprints. -/
def Coordinator.generationView (c : Coordinator) :
    Option Design × Option SceneTree × Option CompiledChains × Nat ×
      List (String × Option Fingerprint) :=
  (c.design, c.tree, c.chains, c.generation, c.tracker.dependencies)

/-- The generation of a coordinator as a value. -/
abbrev GenerationView :=
  Option Design × Option SceneTree × Option CompiledChains × Nat × List (String × Option Fingerprint)

/-- How a failed compile ends, against the generation `before` it: an error reported without a
change means the parse failed, and then the generation is the one before and the coordinator is
idle; an error with a change means the tree could not be instantiated, and then neither a tree
nor chains are left. -/
def CompileStep.FailureKeeps (before : GenerationView) (step : CompileStep) (after : Coordinator) :
    Prop :=
  ∀ o, step = .done o → o.error.isSome →
    (o.changed = false → after.generationView = before ∧ after.state = .idle) ∧
    (o.changed = true → after.tree = none ∧ after.chains = none)

theorem CompileStep.failureKeeps_waiting (before : GenerationView) (delay : Nat)
    (after : Coordinator) : (CompileStep.waiting delay).FailureKeeps before after := by
  intro o isDone
  cases isDone

theorem CompileStep.failureKeeps_of_finish {before : GenerationView} {o : CompileOutcome}
    {after : Coordinator}
    (finished : o.error.isSome → o.changed = true ∧ after.tree = none ∧ after.chains = none) :
    (CompileStep.done o).FailureKeeps before after := by
  intro o' isDone failed
  cases isDone
  have ⟨changed, cleared⟩ := finished failed
  exact ⟨fun unchanged => by simp [changed] at unchanged, fun _ => cleared⟩

/-! ### The files watched -/

theorem Tracker.checkTopLevel_dependencies (t : Tracker) (store : FileStore) :
    (t.checkTopLevel store).1.dependencies = t.dependencies := by
  unfold Tracker.checkTopLevel
  split
  · rfl
  · split
    · rfl
    · split <;> rfl

theorem sortPaths_eq_nil_iff {paths : List String} : sortPaths paths = [] ↔ paths = [] := by
  constructor
  · intro sorted
    -- the fold keeps the first of a run of equal paths, so it is empty only on an empty list
    cases h : paths.mergeSort (fun a b => comparePaths a b != .gt) with
    | nil =>
      have sameLength : (paths.mergeSort fun a b => comparePaths a b != .gt).length =
          paths.length :=
        List.length_mergeSort paths
      rw [h] at sameLength
      exact List.length_eq_zero_iff.mp sameLength.symm
    | cons p rest =>
      simp only [sortPaths, h, List.foldr_cons] at sorted
      split at sorted
      · split at sorted <;> simp at sorted
      · simp at sorted
  · rintro rfl
    simp [sortPaths]

theorem Tracker.refresh_dependencies_of_quiet {t : Tracker} {store : FileStore}
    (quiet : (t.refresh store).2 = []) : (t.refresh store).1.dependencies = t.dependencies := by
  simp only [Tracker.refresh, sortPaths_eq_nil_iff, List.map_eq_nil_iff,
    List.filter_eq_nil_iff] at quiet
  simp only [Tracker.refresh]
  conv_rhs => rw [← List.map_id t.dependencies]
  rw [List.map_map]
  apply List.map_congr_left
  intro entry member
  have same : entry.2 = store.fingerprint? entry.1 := by
    simpa using quiet _ (List.mem_map_of_mem member)
  exact Prod.ext rfl same.symm

namespace Session

/-! ### Steps that only tell the front end

These leave the coordinator as it is. They take precedence over the narrower frames of the lock
invariant, which say less. -/

section Notices

variable (c : Coordinator)

@[spec 2000] theorem say_coordinator (message : String) :
    ⦃fun s _ => ⌜s.coordinator = c⌝⦄ say message ⦃⇓ _ s _ => ⌜s.coordinator = c⌝⦄ := by
  unfold say
  mvcgen [tell, triple_logged]

@[spec 2000] theorem warnUser_coordinator (message : String) :
    ⦃fun s _ => ⌜s.coordinator = c⌝⦄ warnUser message ⦃⇓ _ s _ => ⌜s.coordinator = c⌝⦄ := by
  unfold warnUser
  mvcgen [tell, triple_logged]

@[spec 2000] theorem errorUser_coordinator (message : String) :
    ⦃fun s _ => ⌜s.coordinator = c⌝⦄ errorUser message ⦃⇓ _ s _ => ⌜s.coordinator = c⌝⦄ := by
  unfold errorUser
  mvcgen [tell, triple_logged]

@[spec 2000] theorem invalidate_coordinator :
    ⦃fun s _ => ⌜s.coordinator = c⌝⦄ invalidate ⦃⇓ _ s _ => ⌜s.coordinator = c⌝⦄ := by
  unfold invalidate
  mvcgen [tell]

@[spec 2000] theorem logStats_coordinator :
    ⦃fun s _ => ⌜s.coordinator = c⌝⦄ logStats ⦃⇓ _ s _ => ⌜s.coordinator = c⌝⦄ := by
  unfold logStats
  mvcgen [triple_logged]

@[spec 2000] theorem reloadDocument_coordinator :
    ⦃fun s _ => ⌜s.coordinator = c⌝⦄ reloadDocument ⦃⇓ _ s _ => ⌜s.coordinator = c⌝⦄ := by
  unfold reloadDocument
  mvcgen
  all_goals simp_all

end Notices

/-! ### Parsing and instantiating -/

section Generation

variable (v : GenerationView)

@[spec 2000] theorem parseDocument_generationView :
    ⦃fun s _ => ⌜s.coordinator.generationView = v⌝⦄ parseDocument
    ⦃⇓ r s _ => ⌜∀ e, r = .error e → s.coordinator.generationView = v⌝⦄ := by
  unfold parseDocument
  mvcgen [tell, update, triple_logged]
  all_goals simp_all +zetaDelta [Coordinator.generationView]

@[spec 2000] theorem needsCompile_generationView (reload : Bool) :
    ⦃fun s _ => ⌜s.coordinator.generationView = v⌝⦄ needsCompile reload
    ⦃⇓ _ s _ => ⌜s.coordinator.generationView = v⌝⦄ := by
  unfold needsCompile
  mvcgen [update]
  all_goals simp_all +zetaDelta [Coordinator.generationView, Tracker.checkTopLevel_dependencies]

@[spec 2000] theorem recompile_generationView :
    ⦃fun s _ => ⌜s.coordinator.generationView = v⌝⦄ recompile
    ⦃⇓ r s _ => ⌜∀ e, r = .error e → s.coordinator.generationView = v⌝⦄ := by
  unfold recompile
  mvcgen [update]
  all_goals simp_all +zetaDelta [Coordinator.generationView]

@[spec 2000] theorem release_generationView (state : CompileState) :
    ⦃fun s _ => ⌜s.coordinator.generationView = v ∧ s.coordinator.state = state⌝⦄ release
    ⦃⇓ _ s _ => ⌜s.coordinator.generationView = v ∧
      s.coordinator.state = if state = .done true then state else .idle⌝⦄ := by
  unfold release
  mvcgen [update]
  all_goals simp_all +zetaDelta [Coordinator.generationView]

@[spec 2000] theorem failParse_generationView (error : PipelineError) :
    ⦃fun s _ => ⌜s.coordinator.generationView = v⌝⦄ failParse error
    ⦃⇓ o s _ => ⌜o.error = some error ∧ o.changed = false ∧
      s.coordinator.generationView = v ∧ s.coordinator.state = .idle⌝⦄ := by
  unfold failParse
  mvcgen [update]
  all_goals simp_all +zetaDelta [Coordinator.generationView]

end Generation

@[spec 2000] theorem instantiateRoot_failed :
    ⦃fun _ _ => ⌜True⌝⦄ instantiateRoot
    ⦃⇓ r s _ => ⌜∀ e, r = .error e → s.coordinator.tree = none ∧ s.coordinator.chains = none⌝⦄ := by
  unfold instantiateRoot
  mvcgen [update, triple_logged]
  all_goals simp_all +zetaDelta

@[spec 2000] theorem finish_failed (changed invalidated : Bool) :
    ⦃fun _ _ => ⌜True⌝⦄ finish changed invalidated
    ⦃⇓ o s _ => ⌜o.error.isSome →
      o.changed = true ∧ s.coordinator.tree = none ∧ s.coordinator.chains = none⌝⦄ := by
  unfold finish
  mvcgen [update]
  all_goals simp_all +zetaDelta [Coordinator.generationView, Except.forall_ne_error_iff]

/-! ### Compiles -/

theorem update_generationView (v : GenerationView) (f : Coordinator → Coordinator) :
    ⦃fun s _ => ⌜(f s.coordinator).generationView = v⌝⦄ update f
    ⦃⇓ _ s _ => ⌜s.coordinator.generationView = v⌝⦄ := by
  unfold update
  mvcgen

@[spec 2000] theorem compileWith_failureKeeps (v : GenerationView) (reload forceDone : Bool) :
    ⦃fun s _ => ⌜s.coordinator.generationView = v⌝⦄ compileWith reload forceDone
    ⦃⇓ step s _ => ⌜step.FailureKeeps v s.coordinator⌝⦄ := by
  unfold compileWith
  mvcgen [update_generationView]
  case vc1 =>
    -- the parse failed: the generation is the one checked, and the coordinator is idle
    simp_all +zetaDelta [Coordinator.generationView, CompileStep.FailureKeeps, apply_ite]
  case vc2 | vc4 => exact CompileStep.failureKeeps_waiting _ _ _
  case vc3 | vc5 => exact CompileStep.failureKeeps_of_finish ‹_›

@[spec 2000] theorem compile_failureKeeps (v : GenerationView) (reload : Bool) :
    ⦃fun s _ => ⌜s.coordinator.generationView = v⌝⦄ compile reload
    ⦃⇓ step s _ => ⌜step.FailureKeeps v s.coordinator⌝⦄ := by
  unfold compile
  mvcgen

@[spec 2000] theorem resumeDependencies_failureKeeps (v : GenerationView) :
    ⦃fun s _ => ⌜s.coordinator.generationView = v⌝⦄ resumeDependencies
    ⦃⇓ step s _ => ⌜step.FailureKeeps v s.coordinator⌝⦄ := by
  unfold resumeDependencies
  mvcgen [update, triple_logged]
  all_goals simp_all +zetaDelta [Coordinator.generationView, CompileStep.FailureKeeps,
    CompileOutcome.unchanged, Tracker.refresh_dependencies_of_quiet]

/-! ### Builds -/

section Build

variable (v : GenerationView)

@[spec 2000] theorem evaluateTree_generationView (tree : SceneTree) :
    ⦃fun s _ => ⌜s.coordinator.generationView = v⌝⦄ evaluateTree tree
    ⦃post⟨fun _ s _ => ⌜s.coordinator.generationView = v⌝,
      fun _ s _ => ⌜s.coordinator.generationView = v⌝⟩⦄ := by
  unfold evaluateTree
  mvcgen [update, tell, triple_logged]

@[spec 2000] theorem normalizeTerm_generationView (term : Csg.Term) :
    ⦃fun s _ => ⌜s.coordinator.generationView = v⌝⦄ normalizeTerm term
    ⦃post⟨fun _ s _ => ⌜s.coordinator.generationView = v⌝,
      fun _ s _ => ⌜s.coordinator.generationView = v⌝⟩⦄ := by
  unfold normalizeTerm
  mvcgen [triple_logged]

@[spec 2000] theorem normalizePrimary_generationView (primary : Option Csg.Term) :
    ⦃fun s _ => ⌜s.coordinator.generationView = v⌝⦄ normalizePrimary primary
    ⦃post⟨fun _ s _ => ⌜s.coordinator.generationView = v⌝,
      fun _ s _ => ⌜s.coordinator.generationView = v⌝⟩⦄ := by
  unfold normalizePrimary
  cases primary <;> mvcgen
  all_goals simp_all

@[spec 2000] theorem normalizeOverlays_generationView (label : String) (terms : Array Csg.Term)
    (flags : Csg.Flags) :
    ⦃fun s _ => ⌜s.coordinator.generationView = v⌝⦄ normalizeOverlays label terms flags
    ⦃post⟨fun _ s _ => ⌜s.coordinator.generationView = v⌝,
      fun _ s _ => ⌜s.coordinator.generationView = v⌝⟩⦄ := by
  unfold normalizeOverlays
  mvcgen invariants
  · post⟨fun _ s _ => ⌜s.coordinator.generationView = v⌝,
      fun _ s _ => ⌜s.coordinator.generationView = v⌝⟩
  all_goals simp_all

@[spec 2000] theorem buildChains_generationView :
    ⦃fun s _ => ⌜s.coordinator.generationView = v⌝⦄ buildChains
    ⦃post⟨fun _ _ _ => ⌜True⌝, fun _ s _ => ⌜s.coordinator.generationView = v⌝⟩⦄ := by
  unfold buildChains
  mvcgen [update]
  all_goals simp_all

@[spec 2000] theorem returnToIdle_generationView :
    ⦃fun s _ => ⌜s.coordinator.generationView = v⌝⦄ returnToIdle
    ⦃⇓ _ s _ => ⌜s.coordinator.generationView = v⌝⦄ := by
  unfold returnToIdle
  mvcgen [update]

@[spec 2000] theorem buildProducts_generationView :
    ⦃fun s _ => ⌜s.coordinator.generationView = v⌝⦄ buildProducts
    ⦃⇓ r s _ => ⌜∀ e, r = .error e → s.coordinator.generationView = v⌝⦄ := by
  unfold buildProducts
  mvcgen [update]
  all_goals simp_all +zetaDelta [Coordinator.generationView]

end Build

theorem run_of_triple {α : Type} {m : SessionM α} {P : Session → Prop}
    {Q : α → Session → Prop} (h : ⦃fun s _ => ⌜P s⌝⦄ m ⦃⇓ r s _ => ⌜Q r s⌝⦄) {s : Session}
    (hs : P s) (log : Array LogRecord) :
    Q ((m.run s).run log).run.1.1 ((m.run s).run log).run.1.2 := by
  have hpost := h s log hs
  simpa [Triple, WP.wp] using hpost

end Session

/-- From any coordinator state and editor text: a compile, or a dependency check, whose parse
fails keeps the design, the tree, the chains, the generation number and the watched files, and
returns to idle; one whose tree cannot be instantiated leaves neither a tree nor chains; and a
build that fails keeps the generation, chains included. -/
theorem failures_keep_generation (s : Session) (log : Array LogRecord) (reload : Bool) :
    let before := s.coordinator.generationView
    (let run := (((Session.compile reload).run s).run log).run.1;
      run.1.FailureKeeps before run.2.coordinator) ∧
    (let run := ((Session.resumeDependencies.run s).run log).run.1;
      run.1.FailureKeeps before run.2.coordinator) ∧
    (let run := ((Session.buildProducts.run s).run log).run.1;
      ∀ e, run.1 = .error e → run.2.coordinator.generationView = before) := by
  intro before
  refine ⟨?compile, ?resume, ?build⟩
  case compile => exact Session.run_of_triple (Session.compile_failureKeeps before reload) rfl log
  case resume => exact Session.run_of_triple (Session.resumeDependencies_failureKeeps before) rfl log
  case build => exact Session.run_of_triple (Session.buildProducts_generationView before) rfl log

end CsgPreview.Pipeline
