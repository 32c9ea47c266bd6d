import CsgPreview.Cli.Arguments
import CsgPreview.Cli.Runner

/-!
The program behind the command line, as a function of its arguments, the files it can see and
its environment.

The settings come from the file named by `-c`, or from `polyframe.toml` of the working directory
with the environment's overrides. A failing command prints its error after a cross mark on
standard error and ends with status 1; help and argument errors are decided before anything else
(see `readArguments`). The console shows the pipeline's diagnostics through the logger, verbose
when `-v` is given.
-/

namespace CsgPreview.Cli

open Pipeline Config Files

def failure (message : String) : Exit := ⟨1, { err := "❌ " ++ message ++ "\n" }⟩

/-- The settings of a run: the file named on the command line, else the working directory's
settings with the environment's overrides. -/
def settingsOf (files : FileStore) (env : List (String × String)) (inv : Invocation) :
    Except String PipelineConfig :=
  match inv.configFile with
  | some path => PipelineConfig.fromFile files path path
  | none => PipelineConfig.load files env

/-- A run's work so far: the session, what was shown and the diagnostics sent. -/
structure Progress where
  session : Session
  items : Array Printed
  log : Array LogRecord

/-- Open the document `input` with the run's settings and apply its definitions; or the exit
the run ends with. -/
def prepare (files : FileStore) (env : List (String × String)) (inv : Invocation) (input : String) :
    Except Exit Progress :=
  match settingsOf files env inv with
  | .error m => .error (failure m)
  | .ok config =>
    match openDocument files input config with
    | .error m => .error (failure m)
    | .ok session =>
      let (((result, items), session), log) :=
        (((withDefinitions inv.definitions).run #[]).run session).run #[]
      match result with
      | .error m =>
        .error ⟨1, Console.interleave inv.verbose log (items.push ⟨.err ("❌ " ++ m ++ "\n"), log.size⟩)⟩
      | .ok () => .ok ⟨session, items, log⟩

def Progress.finish {α : Type} (p : Progress) (verbose : Bool) (work : RunnerM (Except String α)) : Exit :=
  let (((result, items), _), log) := ((work.run p.items).run p.session).run p.log
  match result with
  | .ok _ => ⟨0, Console.interleave verbose log items⟩
  | .error m => ⟨1, Console.interleave verbose log (items.push ⟨.err ("❌ " ++ m ++ "\n"), log.size⟩)⟩

def watchForever : Nat := Nat.pow 2 64

/-- Run the program: `files` is what it can read (relative paths against the working
directory), `env` its environment, `compiledAt` the time JSON reports carry. -/
def runProgram (files : FileStore) (env : List (String × String)) (compiledAt : String)
    (args : List String) : Exit :=
  match readArguments args with
  | .help text => ⟨0, { out := text }⟩
  | .usage text => ⟨2, { err := text }⟩
  | .run inv =>
    let onDocument {α : Type} (input : String) (work : RunnerM (Except String α)) : Exit :=
      match prepare files env inv input with
      | .error exit => exit
      | .ok p => p.finish inv.verbose work
    match inv.command with
    | .config =>
      match settingsOf files env inv with
      | .error m => failure m
      | .ok config =>
        match config.toToml with
        | .ok text => ⟨0, { out := text }⟩
        | .error m => failure m
    | .compile input dumpTree dumpProducts json =>
      onDocument input (compile input compiledAt { dumpTree, dumpProducts, json })
    | .render input => onDocument input (render input)
    | .watch input polls =>
      onDocument input (do watch input (polls.getD watchForever); return (.ok () : Except String Unit))

end CsgPreview.Cli
