import CsgPreview.Files.Store

/-!
Watching files for changes by their fingerprints.

The tracker keeps the fingerprint of the top-level file as last seen and those of the files the
document named. The top-level file counts as changed when it exists and its fingerprint differs
from the one seen (a file not seen yet differs); a missing top-level file is no change, since
the editor's text stays authoritative. A named file counts as changed when its fingerprint
appeared, vanished or differs.
-/

namespace CsgPreview.Pipeline

open Files

/-- Fingerprints of the top-level file and of the document's dependencies. -/
structure Tracker where
  topLevel : Option String := none
  topLevelSeen : Option Fingerprint := none
  dependencies : List (String × Option Fingerprint) := []
  deriving Inhabited

namespace Tracker

def setTopLevel (t : Tracker) (path : Option String) : Tracker :=
  { t with topLevel := path, topLevelSeen := none }

def checkTopLevel (t : Tracker) (store : FileStore) : Tracker × Bool :=
  match t.topLevel with
  | none => (t, false)
  | some path =>
    match store.fingerprint? path with
    | none => (t, false)
    | some now =>
      if t.topLevelSeen != some now then ({ t with topLevelSeen := some now }, true)
      else (t, false)

def track (t : Tracker) (store : FileStore) (paths : List String) : Tracker :=
  { t with dependencies := paths.map fun p => (p, store.fingerprint? p) }

/-- Look at every dependency again: the paths whose fingerprint changed, sorted, with the new
fingerprints recorded. -/
def refresh (t : Tracker) (store : FileStore) : Tracker × List String :=
  let now := t.dependencies.map fun (p, seen) => (p, seen, store.fingerprint? p)
  let changed := (now.filter fun (_, seen, current) => seen != current).map (·.1)
  ({ t with dependencies := now.map fun (p, _, current) => (p, current) }, sortPaths changed)

end Tracker

end CsgPreview.Pipeline
