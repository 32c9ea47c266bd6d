import CsgPreview.Script.Grammar.Document
import CsgPreview.Error
import CsgPreview.Log

/-!
Loading a document: parse it, then read the files its `include` and `use` statements name.

A file name is looked for next to the file that names it, then in each library directory; when
it is found nowhere the name next to the file is what is recorded. Every name met is recorded as
a dependency, found or not, so that a file appearing later is noticed. An included file gives all
its statements, a used file only its module definitions. A file already being read further up is
skipped (a cycle), and a parse error inside a file is reported at the statement that named it.

Every file read is a stored file that is not already being read further up, so each nested read
leaves fewer stored files to open and loading ends.
-/

namespace CsgPreview.Script

open Grammar Files

/-- A parsed document: its statements, the directory its includes are read against, the files
it named (sorted, each once), and their fingerprints when it was read. -/
structure Design where
  body : Body
  base : String
  dependencies : List String
  fingerprints : List (String × Option Fingerprint)

namespace Design

/-- A design from its parts; the dependencies are sorted, their repeats dropped, and their
fingerprints taken now. -/
def make (store : FileStore) (body : Body) (base : String) (dependencies : List String) :
    Design :=
  let deps := sortPaths dependencies
  ⟨body, base, deps, deps.map fun p => (p, store.fingerprint? p)⟩

def withOverrides (d : Design) (overrides : List Assignment) : Design :=
  { d with body := { d.body with assignments := d.body.assignments ++ overrides } }

def includesChanged (d : Design) (store : FileStore) : Bool :=
  d.fingerprints.any fun (path, seen) => store.fingerprint? path != seen

def dump (d : Design) : String := d.body.dump 0

end Design

/-- Where named files are looked for. -/
structure Loader where
  store : FileStore
  libraryPaths : List String

abbrev Loading := ExceptT PipelineError (StateT (Array String) Logged)

mutual

def loadStatement (named : Bool → String → Nat → Loading (Option Body)) :
    Statement → Body → Loading Body
  | .include file pos, body => do
    match ← named true file pos with
    | some other => pure (body.extend other)
    | none => pure body
  | .use file pos, body => do
    match ← named false file pos with
    | some other => pure (body.extendDefinitions other)
    | none => pure body
  | .define name params children, body => do
    let inner ← loadStatements named children {}
    pure { body with definitions := body.definitions ++ [⟨name, params, inner⟩] }
  | .assign a, body => pure { body with assignments := body.assignments ++ [a] }
  | .call marks name args children pos, body => do
    let inner ← loadStatements named children {}
    pure { body with instantiations := body.instantiations ++ [⟨name, args, marks, inner, pos⟩] }

def loadStatements (named : Bool → String → Nat → Loading (Option Body)) :
    List Statement → Body → Loading Body
  | [], body => pure body
  | s :: rest, body => do loadStatements named rest (← loadStatement named s body)

end

theorem length_filter_fresh_lt {keys stack : List String} {c : String} (mem : c ∈ keys)
    (fresh : c ∉ stack) :
    (keys.filter fun k => k ∉ c :: stack).length < (keys.filter fun k => k ∉ stack).length := by
  have opened : (keys.filter fun k => k ∉ c :: stack) =
      (keys.filter fun k => k ∉ stack).filter fun k => k ≠ c := by
    rw [List.filter_filter]
    congr 1
    funext k
    simp [List.mem_cons]
  rw [opened, List.length_filter_lt_length_iff_exists]
  exact ⟨c, List.mem_filter.2 ⟨mem, by simpa using fresh⟩, by simp⟩

namespace Loader

/-- Where a named file is: next to the naming file, else in the first library directory that
has it; when none has it, the name next to the naming file, marked as not found. -/
def locate (ld : Loader) (name dir : String) : String × Bool :=
  let beside := joinPath dir name
  if ld.store.isFile beside then (beside, true)
  else
    match ld.libraryPaths.find? fun lib => ld.store.isFile (joinPath lib name) with
    | some lib => (joinPath lib name, true)
    | none => (beside, false)

/-- One `include` or `use` statement naming `name` at `pos`, in a text parsed as `src` whose
names are read against `dir`: the located path is recorded, found or not, and a file found
there that is not being read further up is read through `read`, which is handed the file's
canonical path, with the facts that it is a stored file and none of the files of `stack`, then
the file's text and directory. A syntax error inside that file is reported at `pos`. -/
def openNamed (ld : Loader) (stack : List String) (dir : String) (src : Source)
    (read : (canonical : String) → canonical ∈ ld.store.keys → canonical ∉ stack →
      String → String → Loading Body) (_ : Bool) (name : String) (pos : Nat) :
    Loading (Option Body) := do
  let (path, found) := ld.locate name dir
  modifyThe (Array String) (·.push path)
  if !found then
    report .warn .parser ("Can't open include file '" ++ name ++ "'")
    return none
  let canonical := (ld.store.canonical? path).getD path
  if cyclic : canonical ∈ stack then
    report .warn .parser ("Include cycle at '" ++ path ++ "', ignoring")
    return none
  else
    match reads : ld.store.readText path with
    | .error e => throw (.io path e)
    | .ok text =>
      tryCatch (some <$> read canonical (FileStore.canonical_mem_keys reads) cyclic text
          ((parentPath? path).getD "")) fun
        | .parse inner =>
          throw (.parse (src.failureAt pos ("in " ++ path ++ ": " ++ inner.text)))
        | other => throw other

/-- One file's worth of loading: parse `text`, whose includes are read against `dir`, and read
each file it names through `read`. -/
def level (ld : Loader) (stack : List String) (text dir : String)
    (read : (canonical : String) → canonical ∈ ld.store.keys → canonical ∉ stack →
      String → String → Loading Body) : Loading Body :=
  match parseDocument text with
  | .error f => throw (.parse f)
  | .ok (src, stmts) => loadStatements (ld.openNamed stack dir src read) stmts {}

/-- Parse a text whose includes are read against `dir`, with `stack` the files being read
further up. -/
def source (ld : Loader) (stack : List String) (text dir : String) : Loading Body :=
  ld.level stack text dir fun canonical _ _ text dir => ld.source (canonical :: stack) text dir
termination_by (ld.store.keys.filter fun k => k ∉ stack).length
decreasing_by exact length_filter_fresh_lt ‹_› ‹_›

def parse (ld : Loader) (text base : String) : Logged (Except PipelineError Design) := do
  let (result, deps) ← (ld.source [] text base).run.run #[]
  match result with
  | .error e => pure (.error e)
  | .ok body =>
    report .debug .parser ("Parsed " ++ toString body.statementCount ++ " statements, " ++
      toString deps.size ++ " dependencies")
    pure (.ok (Design.make ld.store body base deps.toList))

def importFile (ld : Loader) (path : String) : Logged (Except ErrorChain Design) :=
  match ld.store.readText path with
  | .error e => pure (.error ((PipelineError.io path e).within ("Failed to read SCAD file: " ++ path)))
  | .ok text => do
    match ← ld.parse text (documentDir path) with
    | .error e => pure (.error (e.within ("Failed to parse SCAD file: " ++ path)))
    | .ok design => pure (.ok design)

end Loader

end CsgPreview.Script
