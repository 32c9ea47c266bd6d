import CsgPreview.Pipeline.Scheduler
import CsgPreview.Cli.Console
import CsgPreview.Cli.Report

/-!
Running the commands on one document: compile once, render the exact geometry, or watch the
files and recompile when they change.

A run holds a pipeline session for the document and keeps what it shows in order next to the
diagnostics the pipeline sends (see `Console.interleave`). Errors end a command with their text;
the command line prints it after a cross mark.

Watching polls at once and then whenever the scheduler's next deadline comes. Time here is the
scheduler's own clock, starting at zero, and each round runs exactly at its deadline, so every
round does work: it polls, resumes a dependency check, or finds the pipeline locked.
-/

namespace CsgPreview.Cli

open Pipeline Config Files Script Script.Grammar

abbrev RunnerM := StateT (Array Printed) SessionM

/-- Options of the compile command. -/
structure CompileOptions where
  dumpTree : Bool := false
  dumpProducts : Bool := false
  json : Bool := false
  deriving Inhabited, Repr

def emit (item : Shown) : RunnerM Unit := do
  let after := (← getThe (Array LogRecord)).size
  modify fun items => items.push ⟨item, after⟩

def printOut (text : String) : RunnerM Unit := emit (.out text)

def printErr (text : String) : RunnerM Unit := emit (.err text)

/-- Run a pipeline step, showing the byte offset of each parse error it highlighted where it
happened among the diagnostics. -/
def withHighlights {α : Type} (step : SessionM α) : RunnerM α := do
  let before := (← getThe Session).notices.highlighted.size
  let a ← (step : SessionM α)
  let n := (← getThe Session).notices
  for (p, mark) in (n.highlighted.toList.zip n.highlightMarks.toList).drop before do
    modify fun items => items.push ⟨.err ("at byte " ++ toString p ++ "\n"), mark⟩
  return a

/-- A session for the document at `path`: its text read from `files`, the pipeline and its
caches set up with `config`. -/
def openDocument (files : FileStore) (path : String) (config : PipelineConfig) : Except String Session :=
  match files.readText path with
  | .error e => .error (PipelineError.io path e).chainText
  | .ok text =>
    let session : Session := ⟨Coordinator.create config config, { text }, files, {}, #[]⟩
    .ok (((Session.setDocumentPath (some path)).run session).run #[]).1.2

def withDefinitions (definitions : List String) : RunnerM (Except String Unit) := do
  for d in definitions do
    match parseDefinition d with
    | .error f => return .error ("Invalid definition '" ++ d ++ "': " ++ (PipelineError.parse f).text)
    | .ok a => Session.define a
  return .ok ()

/-- Compile the document and build its chains, then print what the options ask for: the tree,
the chains' products, and the JSON report (stamped `compiledAt`) or the summary. -/
def compile (name compiledAt : String) (options : CompileOptions) :
    RunnerM (Except String CompiledChains) := do
  let outcome ← withHighlights (Session.compileBlocking true)
  if let some e := outcome.error then return .error e.text
  match ← withHighlights Session.buildProducts with
  | .error e => return .error ("Failed to build products for " ++ name ++ ": " ++ e.chainText)
  | .ok chains =>
    let c := (← getThe Session).coordinator
    if options.dumpTree then
      if let some tree := c.tree then printOut (tree.dump ++ "\n")
    if options.dumpProducts then printOut chains.dump
    if options.json then
      let dependencies := (c.design.map (·.dependencies)).getD []
      printOut (CompileReport.ofChains name compiledAt chains dependencies
        [c.preview.stats, c.exact.stats]).text
    else printOut (chainsReport name chains)
    return .ok chains

/-- Compile the document and render its exact geometry, then print the cache counters. A
document that renders to nothing is an error. -/
def render (name : String) : RunnerM (Except String Unit) := do
  let outcome ← withHighlights (Session.compileBlocking true)
  if let some e := outcome.error then return .error e.text
  let workerBefore := (← getThe Session).renderLog.size
  match ← withHighlights Session.render with
  | .error e => return .error e.chainText
  | .ok () =>
    emit (.worker ((← getThe Session).renderLog.extract workerBefore))
    match ← withHighlights Session.waitRender with
    | none => return .ok ()
    | some (.error e) => return .error e.chainText
    | some (.ok o) =>
      if o.geometry.isNone then return .error (name ++ " rendered to nothing")
      let c := (← getThe Session).coordinator
      printOut (cacheReport [c.preview.stats, c.exact.stats])
      return .ok ()

/-- Report what a watch round compiled: the summary of new chains, or the error that building
them met. -/
def reportTick (name : String) : TickResult → RunnerM Unit
  | .compiled _ (some (.ok chains)) => printOut (chainsReport name chains)
  | .compiled _ (some (.error e)) => printErr ("❌ " ++ e.text ++ "\n")
  | _ => pure ()

def watchStart (name : String) : RunnerM Scheduler := do
  printOut ("Watching " ++ name ++ " (Ctrl-C to stop)\n")
  let interval := (← getThe Session).coordinator.config.autoReloadInterval
  return (({ interval } : Scheduler).enable 0).pollAt 0

def watchRound (name : String) (s : Scheduler) : RunnerM (Option Scheduler) := do
  let some deadline := s.nextDeadline
    | printOut "Auto-reload stopped\n"; return none
  let (result, s) ← withHighlights (s.tick deadline)
  reportTick name result
  return some s

def watch (name : String) (polls : Nat) : RunnerM Unit := do
  rounds (← watchStart name) polls
where
  /-- The remaining rounds. -/
  rounds (s : Scheduler) : Nat → RunnerM Unit
    | 0 => pure ()
    | n + 1 => do
      match ← watchRound name s with
      | none => pure ()
      | some s => rounds s n

end CsgPreview.Cli
