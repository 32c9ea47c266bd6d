import CsgPreview.Log

/-!
The console of the command line: standard output and standard error as texts built line by line.

Two kinds of things reach the console. The front end prints lines itself (reports, the watch
banner, the byte offset of a parse error, the final error), and the pipeline sends diagnostics,
which the console logger prints by level: errors and warnings on standard error with an
`ERROR:` or `WARNING:` tag, information on standard output as it is, and debug lines on standard
output with the sending module in brackets when the output is verbose.

Both are kept apart while the work runs: the diagnostics in the log, and what the front end
printed as items that note how many diagnostics came before them. `Console.interleave` puts them
back in the order they happened.
-/

namespace CsgPreview.Cli

/-- Something the front end showed: a line on standard output or on standard error (with its
line end), or the diagnostics a render worker sent, which the console logs when they arrive. -/
inductive Shown where
  | out (text : String)
  | err (text : String)
  | worker (records : Array LogRecord)
  deriving Inhabited, Repr

/-- A shown item with the number of the pipeline's diagnostics sent before it. -/
structure Printed where
  item : Shown
  after : Nat
  deriving Inhabited, Repr

/-- The two output streams. -/
structure Console where
  out : String := ""
  err : String := ""
  deriving Inhabited, Repr, DecidableEq

namespace Console

def println (c : Console) (line : String) : Console := { c with out := c.out ++ line ++ "\n" }

def eprintln (c : Console) (line : String) : Console := { c with err := c.err ++ line ++ "\n" }

def log (verbose : Bool) (c : Console) (r : LogRecord) : Console :=
  match r.level with
  | .error => c.eprintln ("ERROR: " ++ r.message)
  | .warn => c.eprintln ("WARNING: " ++ r.message)
  | .info => c.println r.message
  | .debug => if verbose then c.println ("[" ++ r.source.path ++ "] " ++ r.message) else c
  | .trace => c

/-- Show one item; with `logging`, worker diagnostics go through the logger, else they are not
shown. -/
def display (logging verbose : Bool) (c : Console) : Shown → Console
  | .out text => { c with out := c.out ++ text }
  | .err text => { c with err := c.err ++ text }
  | .worker records => if logging then records.foldl (log verbose) c else c

def ofPrinted (items : Array Printed) : Console :=
  items.foldl (fun c p => c.display false false p.item) {}

/-- The diagnostics and the items in the order they happened: each item comes after the
diagnostics sent before it and before the next one. -/
def interleave (verbose : Bool) (log : Array LogRecord) (items : Array Printed) : Console :=
  let showUpTo (n : Nat) (state : Console × List Printed) : Console × List Printed :=
    let (now, later) := state.2.span (·.after ≤ n)
    (now.foldl (fun c p => c.display true verbose p.item) state.1, later)
  let (c, rest) := log.toList.zipIdx.foldl (fun state (r, i) =>
    let (c, rest) := showUpTo i state
    (c.log verbose r, rest)) ({}, items.toList)
  (showUpTo log.size (c, rest)).1

end Console

/-- How a command-line run ends: its exit status and what it wrote. -/
structure Exit where
  status : Nat
  console : Console
  deriving Inhabited, Repr

end CsgPreview.Cli
