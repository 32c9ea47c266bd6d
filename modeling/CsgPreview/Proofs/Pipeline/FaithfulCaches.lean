import Mathlib
import CsgPreview.Proofs.Pipeline.AutoReload
import CsgPreview.Proofs.Csg.CacheTransparent
import CsgPreview.Proofs.Pipeline.ExactRender
import CsgPreview.Proofs.Scene.Arena

/-!
The preview caches stay faithful through every call of a session.

The preview cache and the tessellations start empty. The preview walk stores a primitive's
geometry under the primitive's key, the exact render adds tessellations of primitives under their
descriptions, a new budget evicts and a flush empties: in a tree whose keys are computed, every
store is what a primitive with that key makes, so the caches stay faithful. Every tree the
coordinator holds was instantiated from a design, and a tree built so has its keys computed.

The proof follows the session's calls one by one. The steps that leave the caches and the tree
alone keep what the invariant reads; the others are checked against it.
-/

namespace CsgPreview.Pipeline

open Std.Do Cache Scene Csg CsgPreview.Geometry Script Config

set_option mvcgen.warning false

def Coordinator.previewView (c : Coordinator) :
    LruCache Shape × Tessellations × Option SceneTree :=
  (c.preview, c.tessellations, c.tree)

/-- The preview caches are faithful, and the tree, if there is one, is laid out in pre-order and
has its keys computed. -/
def Coordinator.PreviewSound (c : Coordinator) : Prop :=
  CachesFaithful c.preview c.tessellations ∧ ∀ T, c.tree = some T → T.WellFormed ∧ T.KeysComputed

theorem Coordinator.previewSound_create (config budgets : PipelineConfig) :
    (Coordinator.create config budgets).PreviewSound :=
  ⟨⟨PreviewFaithful.create _ _, Tessellations.faithful_empty⟩, fun _ none => by cases none⟩

/-! ### Trees come with their keys -/

theorem triple_mapM {α β : Type} (f : α → ExceptT PipelineError Logged β) (xs : List α) :
    ⦃fun _ => ⌜True⌝⦄ xs.mapM f ⦃post⟨fun _ _ => ⌜True⌝, fun _ _ => ⌜True⌝⟩⦄ := by
  intro log _
  simp only [WP.wp, PredTrans.pushExcept, PredTrans.pushArg, PredTrans.apply, StateT.run,
    PredTrans.pure, Pure.pure]
  generalize ((xs.mapM f).run log).run.1 = r
  cases r <;> trivial

theorem instantiate_keysComputed (design : Design) (context : Scope) (log : Array LogRecord)
    {T : SceneTree} (made : ((instantiate design context).run.run log).run.1 = .ok T) :
    T.KeysComputed := by
  have spec : ⦃fun _ => ⌜True⌝⦄ instantiate design context
      ⦃post⟨fun T _ => ⌜T.KeysComputed⌝, fun _ _ => ⌜True⌝⟩⦄ := by
    unfold instantiate
    mvcgen [triple_logged, triple_mapM]
    exact SceneTree.keysComputed_ofBuilt _ _
  exact Instantiating.of_triple spec log made

/-! ### The exact render's tessellations -/

theorem renderNode_tessellations (tree : SceneTree) (fuel : Nat) :
    ∀ i, ⦃fun r _ => ⌜r.tessellations.Faithful⌝⦄ renderNode meshSolidKernel tree fuel i
      ⦃post⟨fun _ r _ => ⌜r.tessellations.Faithful⌝, fun _ r _ => ⌜r.tessellations.Faithful⌝⟩⦄ := by
  induction fuel with
  | zero =>
    intro i
    mvcgen [renderNode]
  | succ fuel ih =>
    intro i
    mvcgen [renderNode, ih, advance, renderCheckpoint, triple_logged] invariants
    · post⟨fun _ r _ => ⌜r.tessellations.Faithful⌝, fun _ r _ => ⌜r.tessellations.Faithful⌝⟩
    all_goals simp_all +zetaDelta [meshSolidKernel]
    all_goals exact Tessellations.Faithful.exact ‹_› _

theorem renderTree_tessellations (tree : SceneTree) {start : Rendering Shape}
    (faithful : start.tessellations.Faithful) (log : Array LogRecord) :
    (((renderTree meshSolidKernel tree).run.run start).run log).run.1.2.tessellations.Faithful := by
  have spec : ⦃fun r _ => ⌜r.tessellations.Faithful⌝⦄ renderTree meshSolidKernel tree
      ⦃post⟨fun _ r _ => ⌜r.tessellations.Faithful⌝, fun _ r _ => ⌜r.tessellations.Faithful⌝⟩⦄ := by
    unfold renderTree
    mvcgen [renderNode_tessellations, triple_logged]
  have outcome := Step.run_of_triple spec faithful log
  split at outcome <;> simp_all

theorem tessellations_of_renderTree (tree : SceneTree) {start : Rendering Shape}
    (faithful : start.tessellations.Faithful) (log : Array LogRecord)
    {result : Except PipelineError (Option Shape)} {r : Rendering Shape} {records : Array LogRecord}
    (run : ExceptT.run (renderTree meshSolidKernel tree) start log =
      ((result, r), records)) : r.tessellations.Faithful := by
  have ended := renderTree_tessellations tree faithful log
  have final : (((renderTree meshSolidKernel tree).run.run start).run log).run.1.2 = r :=
    congrArg (fun outcome => outcome.1.2) run
  rwa [final] at ended

namespace Session

/-! ### Steps that leave the caches and the tree alone -/

section Frame

variable (v : LruCache Shape × Tessellations × Option SceneTree)

@[spec 5000] theorem parseDocument_previewView :
    ⦃fun s _ => ⌜s.coordinator.previewView = v⌝⦄ parseDocument
    ⦃⇓ _ s _ => ⌜s.coordinator.previewView = v⌝⦄ := by
  unfold parseDocument
  mvcgen [tell, update, triple_logged]
  all_goals simp_all +zetaDelta [Coordinator.previewView]

@[spec 5000] theorem release_previewView :
    ⦃fun s _ => ⌜s.coordinator.previewView = v⌝⦄ release
    ⦃⇓ _ s _ => ⌜s.coordinator.previewView = v⌝⦄ := by
  unfold release
  mvcgen [update]

@[spec 5000] theorem returnToIdle_previewView :
    ⦃fun s _ => ⌜s.coordinator.previewView = v⌝⦄ returnToIdle
    ⦃⇓ _ s _ => ⌜s.coordinator.previewView = v⌝⦄ := by
  unfold returnToIdle
  mvcgen [update]

@[spec 5000] theorem failParse_previewView (error : PipelineError) :
    ⦃fun s _ => ⌜s.coordinator.previewView = v⌝⦄ failParse error
    ⦃⇓ _ s _ => ⌜s.coordinator.previewView = v⌝⦄ := by
  unfold failParse
  mvcgen [update]
  all_goals simp_all +zetaDelta [Coordinator.previewView]

@[spec 5000] theorem normalizeTerm_previewView (term : Term) :
    ⦃fun s _ => ⌜s.coordinator.previewView = v⌝⦄ normalizeTerm term
    ⦃post⟨fun _ s _ => ⌜s.coordinator.previewView = v⌝,
      fun _ s _ => ⌜s.coordinator.previewView = v⌝⟩⦄ := by
  unfold normalizeTerm
  mvcgen [triple_logged]

@[spec 5000] theorem normalizePrimary_previewView (primary : Option Term) :
    ⦃fun s _ => ⌜s.coordinator.previewView = v⌝⦄ normalizePrimary primary
    ⦃post⟨fun _ s _ => ⌜s.coordinator.previewView = v⌝,
      fun _ s _ => ⌜s.coordinator.previewView = v⌝⟩⦄ := by
  unfold normalizePrimary
  cases primary <;> mvcgen
  all_goals simp_all

@[spec 5000] theorem normalizeOverlays_previewView (label : String) (terms : Array Term)
    (flags : Flags) :
    ⦃fun s _ => ⌜s.coordinator.previewView = v⌝⦄ normalizeOverlays label terms flags
    ⦃post⟨fun _ s _ => ⌜s.coordinator.previewView = v⌝,
      fun _ s _ => ⌜s.coordinator.previewView = v⌝⟩⦄ := by
  unfold normalizeOverlays
  mvcgen invariants
  · post⟨fun _ s _ => ⌜s.coordinator.previewView = v⌝, fun _ s _ => ⌜s.coordinator.previewView = v⌝⟩
  all_goals simp_all

@[spec 5000] theorem needsCompile_previewView (reload : Bool) :
    ⦃fun s _ => ⌜s.coordinator.previewView = v⌝⦄ needsCompile reload
    ⦃⇓ _ s _ => ⌜s.coordinator.previewView = v⌝⦄ := by
  unfold needsCompile
  mvcgen [update]
  all_goals simp_all +zetaDelta [Coordinator.previewView]

@[spec 5000] theorem recompile_previewView :
    ⦃fun s _ => ⌜s.coordinator.previewView = v⌝⦄ recompile
    ⦃⇓ _ s _ => ⌜s.coordinator.previewView = v⌝⦄ := by
  unfold recompile
  mvcgen [update]
  all_goals simp_all +zetaDelta [Coordinator.previewView]

@[spec 5000] theorem waitRender_previewView :
    ⦃fun s _ => ⌜s.coordinator.previewView = v⌝⦄ waitRender
    ⦃⇓ _ s _ => ⌜s.coordinator.previewView = v⌝⦄ := by
  unfold waitRender
  mvcgen [update] invariants
  · ⇓ _ s _ => ⌜s.coordinator.previewView = v⌝
  all_goals simp_all +zetaDelta [Coordinator.previewView]

@[spec 5000] theorem setDocumentPath_previewView (path : Option String) :
    ⦃fun s _ => ⌜s.coordinator.previewView = v⌝⦄ setDocumentPath path
    ⦃⇓ _ s _ => ⌜s.coordinator.previewView = v⌝⦄ := by
  unfold setDocumentPath
  mvcgen [update]

@[spec 5000] theorem setVariable_previewView (name : String) (value : Value) :
    ⦃fun s _ => ⌜s.coordinator.previewView = v⌝⦄ setVariable name value
    ⦃⇓ _ s _ => ⌜s.coordinator.previewView = v⌝⦄ := by
  unfold setVariable
  mvcgen [update]

@[spec 5000] theorem define_previewView (assignment : Assignment) :
    ⦃fun s _ => ⌜s.coordinator.previewView = v⌝⦄ define assignment
    ⦃⇓ _ s _ => ⌜s.coordinator.previewView = v⌝⦄ := by
  unfold define
  mvcgen [update]

@[spec 5000] theorem cancel_previewView :
    ⦃fun s _ => ⌜s.coordinator.previewView = v⌝⦄ cancel
    ⦃⇓ _ s _ => ⌜s.coordinator.previewView = v⌝⦄ := by
  unfold cancel
  mvcgen [update]

@[spec 5000] theorem cancelDuring_previewView (checks : Nat) :
    ⦃fun s _ => ⌜s.coordinator.previewView = v⌝⦄ cancelDuring checks
    ⦃⇓ _ s _ => ⌜s.coordinator.previewView = v⌝⦄ := by
  unfold cancelDuring
  mvcgen [update]

end Frame

/-! ### Every call keeps the caches faithful -/

@[spec 5000] theorem instantiateRoot_previewSound :
    ⦃fun s _ => ⌜s.coordinator.PreviewSound⌝⦄ instantiateRoot
    ⦃⇓ _ s _ => ⌜s.coordinator.PreviewSound⌝⦄ := by
  unfold instantiateRoot
  mvcgen [update, triple_logged]
  all_goals simp_all +zetaDelta [Coordinator.PreviewSound]
  exact ⟨instantiate_wellFormed _ _ _ ‹_›, instantiate_keysComputed _ _ _ ‹_›⟩

@[spec 5000] theorem finish_previewSound (changed invalidated : Bool) :
    ⦃fun s _ => ⌜s.coordinator.PreviewSound⌝⦄ finish changed invalidated
    ⦃⇓ _ s _ => ⌜s.coordinator.PreviewSound⌝⦄ := by
  unfold finish
  mvcgen [update]
  all_goals simp_all +zetaDelta [Coordinator.PreviewSound, Coordinator.previewView]

@[spec 5000] theorem compileWith_previewSound (reload forceDone : Bool) :
    ⦃fun s _ => ⌜s.coordinator.PreviewSound⌝⦄ compileWith reload forceDone
    ⦃⇓ _ s _ => ⌜s.coordinator.PreviewSound⌝⦄ := by
  unfold compileWith
  mvcgen [update]
  case vc1 | vc2 | vc3 | vc5 =>
    -- the checks, the parse and its failure leave the caches and the tree as they were
    simp_all +zetaDelta [Coordinator.PreviewSound, Coordinator.previewView, apply_ite]
  case vc4 =>
    -- without a compile there is nothing to wait on
    simp at ‹(reload && false && _) = true›

@[spec 5000] theorem compile_previewSound (reload : Bool) :
    ⦃fun s _ => ⌜s.coordinator.PreviewSound⌝⦄ compile reload
    ⦃⇓ _ s _ => ⌜s.coordinator.PreviewSound⌝⦄ := by
  unfold compile
  mvcgen

@[spec 5000] theorem resumeDependencies_previewSound :
    ⦃fun s _ => ⌜s.coordinator.PreviewSound⌝⦄ resumeDependencies
    ⦃⇓ _ s _ => ⌜s.coordinator.PreviewSound⌝⦄ := by
  unfold resumeDependencies
  mvcgen [update, triple_logged]
  all_goals simp_all +zetaDelta [Coordinator.PreviewSound]

@[spec 5000] theorem settle_previewSound (fuel : Nat) (step : CompileStep) :
    ⦃fun s _ => ⌜s.coordinator.PreviewSound⌝⦄ compileBlocking.settle fuel step
    ⦃⇓ _ s _ => ⌜s.coordinator.PreviewSound⌝⦄ := by
  induction fuel generalizing step with
  | zero =>
    unfold compileBlocking.settle
    cases step <;> mvcgen
  | succ fuel ih =>
    unfold compileBlocking.settle
    cases step with
    | done outcome => mvcgen
    | waiting delay => exact Triple.bind _ _ resumeDependencies_previewSound fun step => ih step

@[spec 5000] theorem compileBlocking_previewSound (reload : Bool) :
    ⦃fun s _ => ⌜s.coordinator.PreviewSound⌝⦄ compileBlocking reload
    ⦃⇓ _ s _ => ⌜s.coordinator.PreviewSound⌝⦄ := by
  unfold compileBlocking
  mvcgen

@[spec 5000] theorem evaluateTree_previewSound (tree : SceneTree) :
    ⦃fun s _ => ⌜s.coordinator.PreviewSound ∧ tree.KeysComputed⌝⦄ evaluateTree tree
    ⦃post⟨fun _ s _ => ⌜s.coordinator.PreviewSound⌝, fun _ s _ => ⌜s.coordinator.PreviewSound⌝⟩⦄ := by
  unfold evaluateTree
  mvcgen [update, tell, triple_logged]
  -- finished or failed, the walk leaves the caches faithful
  all_goals
    obtain ⟨⟨faithful, keyed⟩, computed⟩ := ‹_ ∧ tree.KeysComputed›
    exact ⟨evaluate_faithful computed faithful _, keyed⟩

@[spec 5000] theorem buildChains_previewSound :
    ⦃fun s _ => ⌜s.coordinator.PreviewSound⌝⦄ buildChains
    ⦃post⟨fun _ s _ => ⌜s.coordinator.PreviewSound⌝, fun _ s _ => ⌜s.coordinator.PreviewSound⌝⟩⦄ := by
  unfold buildChains
  mvcgen [update]
  all_goals simp_all +zetaDelta [Coordinator.PreviewSound, Coordinator.previewView]

@[spec 5000] theorem buildProducts_previewSound :
    ⦃fun s _ => ⌜s.coordinator.PreviewSound⌝⦄ buildProducts
    ⦃⇓ _ s _ => ⌜s.coordinator.PreviewSound⌝⦄ := by
  unfold buildProducts
  mvcgen [update]
  all_goals simp_all +zetaDelta [Coordinator.PreviewSound, Coordinator.previewView]

@[spec 5000] theorem preview_previewSound :
    ⦃fun s _ => ⌜s.coordinator.PreviewSound⌝⦄ preview
    ⦃⇓ _ s _ => ⌜s.coordinator.PreviewSound⌝⦄ := by
  unfold preview
  mvcgen

@[spec 5000] theorem render_previewSound :
    ⦃fun s _ => ⌜s.coordinator.PreviewSound⌝⦄ render
    ⦃⇓ _ s _ => ⌜s.coordinator.PreviewSound⌝⦄ := by
  unfold render
  mvcgen [update]
  all_goals simp_all +zetaDelta [Coordinator.PreviewSound, Coordinator.previewView]
  obtain ⟨faithful, -⟩ := ‹CachesFaithful _ _ ∧ SceneTree.WellFormed _ ∧ SceneTree.KeysComputed _›
  exact ⟨faithful.preview, tessellations_of_renderTree _ faithful.tessellations _ ‹_›⟩

@[spec 5000] theorem applyConfig_previewSound (config : PipelineConfig) :
    ⦃fun s _ => ⌜s.coordinator.PreviewSound⌝⦄ applyConfig config
    ⦃⇓ _ s _ => ⌜s.coordinator.PreviewSound⌝⦄ := by
  unfold applyConfig
  mvcgen [update, triple_logged]
  -- only the preview cache's budget matters here
  obtain ⟨faithful, keyed⟩ := ‹Coordinator.PreviewSound _›
  exact ⟨⟨faithful.preview.setMax _ _, faithful.tessellations⟩, keyed⟩

@[spec 5000] theorem flushCaches_previewSound :
    ⦃fun s _ => ⌜s.coordinator.PreviewSound⌝⦄ flushCaches
    ⦃⇓ _ s _ => ⌜s.coordinator.PreviewSound⌝⦄ := by
  unfold flushCaches
  mvcgen [update, triple_logged]
  simp_all +zetaDelta [Coordinator.PreviewSound]
  exact cachesFaithful_clear _

theorem SessionCall.run_previewSound (call : SessionCall) :
    ⦃fun s _ => ⌜s.coordinator.PreviewSound⌝⦄ call.run
    ⦃⇓ _ s _ => ⌜s.coordinator.PreviewSound⌝⦄ := by
  cases call <;> unfold SessionCall.run <;> mvcgen
  all_goals simp_all +zetaDelta [Coordinator.PreviewSound, Coordinator.previewView]

theorem runCalls_previewSound (calls : List SessionCall) :
    ⦃fun s _ => ⌜s.coordinator.PreviewSound⌝⦄ runCalls calls
    ⦃⇓ _ s _ => ⌜s.coordinator.PreviewSound⌝⦄ := by
  induction calls with
  | nil =>
    unfold runCalls
    mvcgen
  | cons call calls ih =>
    unfold runCalls
    exact Triple.bind _ _ (SessionCall.run_previewSound call) fun _ => ih

end Session

theorem previewSound_between_calls (config budgets : PipelineConfig) (document : Document)
    (files : Files.FileStore) (calls : List SessionCall) (log : Array LogRecord) :
    (((runCalls calls).run ⟨Coordinator.create config budgets, document, files, {}, #[]⟩).run
      log).run.1.2.coordinator.PreviewSound :=
  Session.run_of_triple (Q := fun _ s => s.coordinator.PreviewSound)
    (Session.runCalls_previewSound calls) (Coordinator.previewSound_create config budgets) log

end CsgPreview.Pipeline
