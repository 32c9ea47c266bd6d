import CsgPreview.Pipeline.Document
import CsgPreview.Pipeline.Tracker
import CsgPreview.Pipeline.Render
import CsgPreview.Config.Basic
import CsgPreview.Csg.Evaluate
import CsgPreview.Csg.Normalize
import CsgPreview.Csg.Chain
import CsgPreview.Scene.Instantiate

/-!
The compile coordinator: one document taken through its compile states.

```
Idle → Checking → Recompiling → WaitingOnDependencies → Done(changed)
          |             |                ^     |
          |             +→ Done(changed) +-----+ (a dependency changed)
          +→ Done(unchanged) → Idle
```

Checking decides whether to compile: always without reload; with reload only when the
top-level file changed on disk (and may replace the editor's text), when nothing was compiled
yet, or when a file the design named changed. Recompiling parses the text; a design that names
files then waits for them to settle, rechecking their fingerprints until none changes or the
number of checks runs out. Finishing instantiates the scene tree. A failed parse or
instantiation passes through `Failed` and returns to `Idle`; `Done(changed)` stays until the
products are built.

Building evaluates the tree into terms, normalizes them within the element budget and flattens
them into the primary, highlight and background chains, which replace the previous ones
together. The exact render is started on the tree of the moment and collected later.

Everything a compile touches lives in one `Session`: the coordinator, the document, the files
and what the front end was told. The coordinator holds the compile lock while it compiles and
while a render is out.
-/

namespace CsgPreview.Pipeline

open Files Script Scene Csg Cache CsgPreview.Geometry Config

/-- The states of a compile. -/
inductive CompileState where
  | idle
  | checking
  | recompiling
  | waitingOnDependencies
  | done (changed : Bool)
  | failed
  deriving DecidableEq, Inhabited, Repr

def CompileState.name : CompileState → String
  | .idle => "Idle"
  | .checking => "Checking"
  | .recompiling => "Recompiling"
  | .waitingOnDependencies => "WaitingOnDependencies"
  | .done true => "Done(changed)"
  | .done false => "Done(unchanged)"
  | .failed => "Failed"

/-- The result of one pass through the states. -/
structure CompileOutcome where
  /-- A new tree was instantiated. -/
  changed : Bool
  /-- The parse or instantiation failure. -/
  error : Option PipelineError
  /-- False when the dependency checks ran out while files were still changing. -/
  dependenciesSettled : Bool
  dependencyChecks : Nat
  /-- The top-level file changed on disk, but the editor kept its unsaved edits. -/
  reloadDeclined : Bool
  deriving Inhabited

namespace CompileOutcome

def unchanged : CompileOutcome := ⟨false, none, true, 0, false⟩

def shouldBuild (o : CompileOutcome) : Bool := o.changed && o.error.isNone

end CompileOutcome

/-- A compile is done, or waits for its dependencies to settle for some milliseconds. -/
inductive CompileStep where
  | done (outcome : CompileOutcome)
  | waiting (retryAfter : Nat)
  deriving Inhabited

/-- The three chains of one build. -/
structure CompiledChains where
  primary : RenderChain
  highlights : RenderChain
  background : RenderChain
  /-- False when the primary chain is longer than the preview limit. -/
  previewAvailable : Bool
  /-- Normalization stopped at the element budget. -/
  normalizationAborted : Bool
  generation : Nat
  deriving Inhabited

def CompiledChains.dump (c : CompiledChains) : String :=
  String.join <| [("primary", c.primary), ("highlights", c.highlights),
    ("background", c.background)].map fun (name, chain) =>
      if chain.isEmpty then ""
      else name ++ " (" ++ toString chain.size ++ " entries):\n" ++ chain.dump

/-- What an exact render gives: its geometry (none when the design renders to nothing) and the
tree generation it rendered. -/
structure RenderOutcome where
  geometry : Option Shape
  generation : Nat
  deriving Inhabited

/-- The coordinator of one document. -/
structure Coordinator where
  config : PipelineConfig
  /-- Directories searched for named files, fixed when the coordinator is made. -/
  libraryPaths : List String
  preview : LruCache Shape
  exact : LruCache Shape
  tessellations : Tessellations := {}
  tracker : Tracker := {}
  basePath : String := "."
  design : Option Design := none
  tree : Option SceneTree := none
  chains : Option CompiledChains := none
  lastCompiledText : String := ""
  reloadDeclined : Bool := false
  /-- Variables bound below the document, such as `$t`. -/
  presets : List (String × Value) := []
  /-- Definitions applied after the document's own assignments. -/
  overrides : List Assignment := []
  lastErrorPosition : Option Nat := none
  state : CompileState := .idle
  /-- The compile lock is held by a compile in progress. -/
  compiling : Bool := false
  cancel : CancelToken := {}
  generation : Nat := 0
  dependencyChecks : Nat := 0
  /-- The result of a render not yet collected. -/
  pending : Option (Except PipelineError RenderOutcome) := none
  renderProgress : Nat := 0

def Coordinator.create (config budgets : PipelineConfig) : Coordinator :=
  { config, libraryPaths := config.libraryPaths,
    preview := LruCache.create "Geometry cache" budgets.previewCacheBytes,
    exact := LruCache.create "Exact cache" budgets.exactCacheBytes }

/-- The number of compile guards alive: the one a compile holds until it finishes, and the one
the render worker holds until its result is collected. -/
def Coordinator.lockDepth (c : Coordinator) : Nat :=
  (if c.compiling then 1 else 0) + (if c.pending.isSome then 1 else 0)

def Coordinator.isLocked (c : Coordinator) : Bool := c.lockDepth > 0

/-- The coordinator with everything it talks to. -/
structure Session where
  coordinator : Coordinator
  document : Document
  files : FileStore
  notices : Notices := {}
  /-- Diagnostics sent by renders. -/
  renderLog : Array LogRecord := #[]

abbrev SessionM := StateT Session Logged

namespace Session

def update (f : Coordinator → Coordinator) : SessionM Unit :=
  modify fun s => { s with coordinator := f s.coordinator }

def tell (f : Notices → Notices) : SessionM Unit :=
  modify fun s => { s with notices := f s.notices }

def say (message : String) : SessionM Unit := do
  report .info .coordinator message
  tell fun n => { n with output := n.output.push message }

def warnUser (message : String) : SessionM Unit := do
  report .warn .coordinator message
  tell fun n => { n with output := n.output.push ("WARNING: " ++ message) }

def errorUser (message : String) : SessionM Unit := do
  report .error .coordinator message
  tell fun n => { n with output := n.output.push ("ERROR: " ++ message) }

def invalidate : SessionM Unit :=
  tell fun n => { n with invalidations := n.invalidations + 1 }

def elapsedText : String := "0.000s"

def setDocumentPath (path : Option String) : SessionM Unit :=
  update fun c =>
    { c with
      basePath := (path.map documentDir).getD "."
      tracker := c.tracker.setTopLevel path }

def setVariable (name : String) (value : Value) : SessionM Unit :=
  update fun c => { c with presets := bindName name value c.presets }

def define (a : Assignment) : SessionM Unit :=
  update fun c => { c with overrides := c.overrides ++ [a] }

def applyConfig (config : PipelineConfig) : SessionM Unit := do
  let c := (← get).coordinator
  let preview ← (c.preview.setMax config.previewCacheBytes : Logged _)
  let exact ← (c.exact.setMax config.exactCacheBytes : Logged _)
  update fun c => { c with preview, exact, config }

def cancel : SessionM Unit := update fun c => { c with cancel := .cancelled }

/-- A cancel from another thread that comes once the next job has passed `checks` more
checkpoints. -/
def cancelDuring (checks : Nat) : SessionM Unit :=
  update fun c => { c with cancel := c.cancel.cancelAfter checks }

def logStats : SessionM Unit := do
  let c := (← get).coordinator
  report .debug .caches c.preview.stats.text
  report .debug .caches c.exact.stats.text

def flushCaches : SessionM Unit := do
  let c := (← get).coordinator
  update fun c => { c with preview := c.preview.clear, exact := c.exact.clear }
  report .debug .caches ("Flushing tessellation cache (" ++ toString c.tessellations.size ++
    " entries)")
  update fun c => { c with tessellations := {} }
  report .info .caches "Caches flushed"

def release : SessionM Unit :=
  update fun c =>
    { c with
      compiling := false
      dependencyChecks := 0
      reloadDeclined := false
      state := if c.state == .done true then c.state else .idle }

def returnToIdle : SessionM Unit :=
  update fun c => { c with state := if c.state == .done true then .idle else c.state }

def reloadDocument : SessionM Bool := do
  let s ← get
  match s.coordinator.tracker.topLevel with
  | none => return false
  | some path =>
    match s.files.readText path with
    | .ok text =>
      set { s with document := s.document.setText text }
      say ("Reloaded " ++ path)
      return true
    | .error e =>
      warnUser (PipelineError.io path e).text
      return false

/-- Parse the editor's text, moving the error highlight; on success the design replaces the
previous one and its dependencies are watched. -/
def parseDocument : SessionM (Except PipelineError Unit) := do
  let text := (← get).document.text
  say "Parsing design (AST generation)..."
  let s ← get
  let c := s.coordinator
  let loader : Loader := ⟨s.files, c.libraryPaths⟩
  let result := (← (loader.parse text c.basePath : Logged _)).map (·.withOverrides c.overrides)
  update fun c => { c with lastCompiledText := text }
  let position := match result with
    | .error e => e.position?
    | .ok _ => none
  if position != c.lastErrorPosition then
    if c.lastErrorPosition.isSome then
      tell fun n => { n with highlightClears := n.highlightClears + 1 }
    if let some p := position then
      let mark := (← getThe (Array LogRecord)).size
      tell fun n => { n with highlighted := n.highlighted.push p, highlightMarks := n.highlightMarks.push mark }
    update fun c => { c with lastErrorPosition := position }
  match result with
  | .error e => return .error e
  | .ok design =>
    let files := (← get).files
    update fun c =>
      { c with
        tracker := c.tracker.track files design.dependencies
        design := some design }
    return .ok ()

def failParse (error : PipelineError) : SessionM CompileOutcome := do
  errorUser error.text
  say "Compilation failed!"
  update fun c => { c with state := .failed }
  let c := (← get).coordinator
  let outcome : CompileOutcome := ⟨false, some error, true, c.dependencyChecks, c.reloadDeclined⟩
  release
  return outcome

def instantiateRoot : SessionM (Except PipelineError Unit) := do
  say "Compiling design (CSG Tree generation)..."
  let c := (← get).coordinator
  let result ← match c.design with
    | some design =>
      let top := c.presets.foldl (fun s (n, v) => s.setVariable n v) Scope.global
      ((instantiate design top).run : Logged _)
    | none => pure (.error .noTopLevelObject)
  match result with
  | .ok tree =>
    update fun c => { c with generation := c.generation + 1, tree := some tree }
    return .ok ()
  | .error e =>
    update fun c => { c with tree := none, chains := none }
    match e with
    | .noTopLevelObject => pure ()
    | _ => errorUser e.text
    errorUser PipelineError.noTopLevelObject.text
    return .error e

/-- End a pass: with a change, instantiate the tree (invalidating the renderer unless the
recompile did); then give up the lock. -/
def finish (changed invalidated : Bool) : SessionM CompileOutcome := do
  let c := (← get).coordinator
  let mut outcome : CompileOutcome := ⟨changed, none, true, c.dependencyChecks, c.reloadDeclined⟩
  update fun c => { c with state := .done changed }
  if changed then
    if !invalidated then invalidate
    if let .error e ← instantiateRoot then
      update fun c => { c with state := .failed }
      outcome := { outcome with error := some e }
  release
  return outcome

/-- Checking: whether to compile. Without reload always; with reload when the top-level file
changed on disk (its text replaces the editor's when the editor allows it), when nothing was
compiled yet, or when a file the design named changed. -/
def needsCompile (reload : Bool) : SessionM Bool := do
  let mut shouldCompile := !reload
  if reload then
    let s ← get
    let (tracker, changedOnDisk) := s.coordinator.tracker.checkTopLevel s.files
    update fun c => { c with tracker }
    if changedOnDisk && s.document.allowsReload then
      shouldCompile ← reloadDocument
    else
      if changedOnDisk then
        update fun c => { c with reloadDeclined := true }
        warnUser "Document changed on disk; keeping unsaved edits"
      let s ← get
      shouldCompile := s.coordinator.lastCompiledText.isEmpty &&
        s.document.text != s.coordinator.lastCompiledText
  let s ← get
  if s.coordinator.design.any (·.includesChanged s.files) then
    shouldCompile := true
  return shouldCompile

/-- Recompiling: the renderer lets go of the chains, unsaved edits are backed up, and the text is
parsed. -/
def recompile : SessionM (Except PipelineError Unit) := do
  update fun c => { c with state := .recompiling }
  invalidate
  if (← get).document.modified then
    modify fun s => { s with document := s.document.saveBackup }
  parseDocument

/-- Checking and, when needed, Recompiling; `forceDone` finishes as changed even without a
compile (the end of a dependency wait). -/
def compileWith (reload forceDone : Bool) : SessionM CompileStep := do
  update fun c =>
    if c.state != .waitingOnDependencies then { c with dependencyChecks := 0, reloadDeclined := false }
    else c
  update fun c => { c with compiling := true, state := .checking }
  let shouldCompile ← needsCompile reload
  let mut didCompile := false
  if shouldCompile then
    match ← recompile with
    | .error e => return .done (← failParse e)
    | .ok () => didCompile := true
  let c := (← get).coordinator
  if reload && didCompile && c.design.any (!·.dependencies.isEmpty) then
    update fun c => { c with state := .waitingOnDependencies }
    return .waiting c.config.settleDelay
  return .done (← finish (didCompile || forceDone) didCompile)

/-- Compile the editor's text (`reload` false) or check the files and compile what changed
(`reload` true). -/
def compile (reload : Bool) : SessionM CompileStep := compileWith reload false

/-- One dependency check of a waiting compile: with nothing changed, check again and finish;
else wait once more, or give up with a warning once the checks run out. -/
def resumeDependencies : SessionM CompileStep := do
  let c := (← get).coordinator
  if c.state != .waitingOnDependencies then return .done .unchanged
  let checks := c.dependencyChecks + 1
  let (tracker, changed) := c.tracker.refresh (← get).files
  update fun c => { c with dependencyChecks := checks, tracker }
  if changed.isEmpty then return ← compileWith true true
  report .debug .coordinator (toString changed.length ++ " dependencies changed during reload (check " ++
    toString checks ++ ")")
  if checks >= c.config.maxDependencyChecks then
    warnUser (PipelineError.dependenciesStillChanging checks).text
    let outcome ← finish true false
    return .done { outcome with dependenciesSettled := false }
  return .waiting c.config.settleDelay

/-- Compile and go through any dependency wait at once; `fuel` bounds the checks, far beyond
what settled files take. -/
def compileBlocking (reload : Bool) : SessionM CompileOutcome := do
  let fuel := (← get).coordinator.config.maxDependencyChecks + 2
  let rec settle : Nat → CompileStep → SessionM CompileOutcome
    | _, .done outcome => pure outcome
    | 0, .waiting _ => pure .unchanged
    | fuel + 1, .waiting _ => do settle fuel (← resumeDependencies)
  settle fuel (← compile reload)

def normalizeTerm (term : Term) : ExceptT PipelineError SessionM (Option Term × Bool) := do
  let c := (← get).coordinator
  match ← ((normalize c.config.normalizerBudget c.cancel term).run : Logged _) with
  | .ok n =>
    update fun c => { c with cancel := c.cancel.after n.passes }
    return (n.term, n.aborted)
  | .error e => throw e

def evaluateTree (tree : SceneTree) : ExceptT PipelineError SessionM Evaluated := do
  let c := (← get).coordinator
  let walk : Walk := ⟨c.preview, c.tessellations, Progress.start 0, #[], #[], c.cancel⟩
  let (result, walk) ← ((evaluate tree).run.run walk : Logged _)
  update fun c =>
    { c with preview := walk.cache, tessellations := walk.tessellations, cancel := walk.cancel }
  tell fun n => { n with progress := n.progress ++ walk.progress.reports }
  match result with
  | .ok terms => return terms
  | .error e => throw e

def normalizePrimary : Option Term → ExceptT PipelineError SessionM (RenderChain × Bool)
  | none => return ({}, false)
  | some term => do
    let (result, stopped) ← normalizeTerm term
    match result with
    | some t => return (({} : RenderChain).append t .union {}, stopped)
    | none =>
      warnUser "CSG normalization resulted in an empty tree"
      return ({}, stopped)

/-- Normalize the overlay terms of one kind, announced as `label`, into a chain under `flags`;
also whether the budget stopped one of them. -/
def normalizeOverlays (label : String) (terms : Array Term) (flags : Flags) :
    ExceptT PipelineError SessionM (RenderChain × Bool) := do
  let mut chain : RenderChain := {}
  let mut aborted := false
  if !terms.isEmpty then
    say ("Compiling " ++ label ++ " (" ++ toString terms.size ++ " CSG Trees)...")
    for term in terms do
      let (result, stopped) ← normalizeTerm term
      aborted := aborted || stopped
      if let some t := result then chain := chain.append t .union flags
  return (chain, aborted)

def buildChains : ExceptT PipelineError SessionM CompiledChains := do
  let some tree := (← get).coordinator.tree | throw .noTopLevelObject
  say "Compiling design (CSG Products generation)..."
  let terms ← evaluateTree tree
  logStats
  say "Compiling design (CSG Products normalization)..."
  let (primary, primaryAborted) ← normalizePrimary terms.primary
  let (highlights, highlightsAborted) ←
    normalizeOverlays "highlights" terms.highlights ⟨true, false⟩
  let (background, backgroundAborted) ←
    normalizeOverlays "background" terms.backgrounds ⟨false, true⟩
  let c := (← get).coordinator
  let previewAvailable := primary.size <= c.config.previewElementLimit
  if previewAvailable then
    say ("Normalized CSG tree has " ++ toString primary.size ++ " elements")
  else
    warnUser ("Normalized tree has " ++ toString primary.size ++ " elements!")
    warnUser "Preview rendering has been disabled."
  let chains : CompiledChains :=
    ⟨primary, highlights, background, previewAvailable,
      primaryAborted || highlightsAborted || backgroundAborted, c.generation⟩
  update fun c => { c with chains := some chains }
  say ("Compile and preview finished. Total rendering time: " ++ elapsedText)
  return chains

/-- Build the products of the current tree. A cancelled or failed build keeps the previous
chains; either way the cancel request is dropped and `Done(changed)` becomes `Idle`. -/
def buildProducts : SessionM (Except PipelineError CompiledChains) := do
  let result ← buildChains.run
  update fun c => { c with cancel := {} }
  returnToIdle
  if let .error .cancelled := result then say "CSG generation cancelled."
  return result

def preview : SessionM (Except PipelineError CompiledChains) := do
  let outcome ← compileBlocking false
  match outcome.error with
  | some e => return .error e
  | none => buildProducts

def render : SessionM (Except PipelineError Unit) := do
  let c := (← get).coordinator
  let some tree := c.tree | return .error .noTopLevelObject
  if c.pending.isSome then return .error .workerBusy
  returnToIdle
  say "Rendering Polygon Mesh using the exact kernel..."
  let c := (← get).coordinator
  let start : Rendering Shape :=
    { cache := c.exact, tessellations := c.tessellations, total := 1, cancel := c.cancel }
  let ((result, r), records) :=
    ((renderTree meshSolidKernel tree).run.run start).run #[]
  let outcome := result.map fun g => (⟨g, c.generation⟩ : RenderOutcome)
  modify fun s => { s with renderLog := s.renderLog ++ records }
  update fun c =>
    { c with
      exact := r.cache
      tessellations := r.tessellations
      renderProgress := r.progress
      cancel := r.cancel
      pending := some outcome }
  return .ok ()

def isRendering : SessionM Bool := return (← get).coordinator.pending.isSome

def waitRender : SessionM (Option (Except PipelineError RenderOutcome)) := do
  let some result := (← get).coordinator.pending | return none
  update fun c => { c with pending := none, cancel := {} }
  match result with
  | .ok outcome =>
    match outcome.geometry with
    | some g =>
      say "Rendering finished."
      for line in g.summary do say line
      say ("Total rendering time: " ++ elapsedText)
    | none => warnUser "No top level geometry to render"
  | .error .cancelled => say "Rendering cancelled."
  | .error e => errorUser e.text
  logStats
  return some result

end Session

end CsgPreview.Pipeline
