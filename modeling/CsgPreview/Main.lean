import CsgPreview.Cli.Program
import Std.Time.Format

/-!
The `polyframe-preview` executable. It reads the files under the working directory, passes them
with the arguments and the `POLYFRAME_*` environment to `runProgram`, and writes what the run
printed. A watch with no poll limit runs one round at a time instead, waiting for each deadline
and reading the files again before the round.
-/

open CsgPreview CsgPreview.Cli CsgPreview.Files CsgPreview.Pipeline

def environmentNames : List String :=
  ["POLYFRAME_PREVIEW_CACHE", "POLYFRAME_EXACT_CACHE", "POLYFRAME_ELEMENT_LIMIT",
   "POLYFRAME_LIBRARY_PATH"]

def readWorkingTree : IO (String × List (String × ByteArray)) := do
  let cwd ← IO.currentDir
  let mut files := []
  for p in ← cwd.walkDir do
    if !(← p.isDir) then
      try files := (p.toString, ← IO.FS.readBinFile p) :: files
      catch _ => pure ()
  return (cwd.toString, files.reverse)

def writeConsole (c : Console) : IO Unit := do
  let out ← IO.getStdout
  out.putStr c.out
  out.flush
  let err ← IO.getStderr
  err.putStr c.err
  err.flush

partial def watchLoop (verbose : Bool) (name : String) (start : Nat) (s : Scheduler)
    (session : Session) : IO Unit := do
  if let some deadline := s.nextDeadline then
    let now ← IO.monoMsNow
    if start + deadline > now then IO.sleep (start + deadline - now).toUInt32
  let (_, listing) ← readWorkingTree
  let session := { session with files := session.files.sync listing }
  let (((next, items), session), log) := (((watchRound name s).run #[]).run session).run #[]
  writeConsole (Console.interleave verbose log items)
  if let some s := next then watchLoop verbose name start s session

def main (args : List String) : IO UInt32 := do
  let (cwd, listing) ← readWorkingTree
  let files := (FileStore.empty cwd).sync listing
  let env ← environmentNames.filterMapM fun name => do
    return (← IO.getEnv name).map (name, ·)
  let compiledAt := utcStamp (← Std.Time.Timestamp.now).toSecondsSinceUnixEpoch.val
  if let .run inv := readArguments args then
    if let .watch input none := inv.command then
      match prepare files env inv input with
      | .error exit =>
        writeConsole exit.console
        return exit.status.toUInt32
      | .ok p =>
        let (((s, items), session), log) := (((watchStart input).run p.items).run p.session).run p.log
        writeConsole (Console.interleave inv.verbose log items)
        watchLoop inv.verbose input (← IO.monoMsNow) s session
        return 0
  let exit := runProgram files env compiledAt args
  writeConsole exit.console
  return exit.status.toUInt32
