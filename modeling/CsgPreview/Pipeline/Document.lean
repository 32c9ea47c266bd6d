/-!
The two parties a compile talks to besides the files: the document being edited, and the front
end that is told what happens.

The document holds its text, whether it has edits not yet saved, the answer it gives when asked
to drop such edits for a newer file on disk, and the text last backed up before a compile.
The front end records console lines, highlighted error offsets, how often a highlight was
cleared and the renderer was invalidated, and progress values.
-/

namespace CsgPreview.Pipeline

/-- An editor buffer. -/
structure Document where
  text : String
  modified : Bool := false
  discardEdits : Bool := false
  backup : Option String := none
  deriving Inhabited, Repr

namespace Document

def edit (d : Document) (text : String) : Document := { d with text, modified := true }

def setText (d : Document) (text : String) : Document := { d with text, modified := false }

def saveBackup (d : Document) : Document := { d with backup := some d.text }

/-- Whether the buffer may be replaced by the file on disk: it has no unsaved edits, or the
user agrees to drop them. -/
def allowsReload (d : Document) : Bool := !d.modified || d.discardEdits

end Document

/-- What the front end was told. -/
structure Notices where
  output : Array String := #[]
  highlighted : Array Nat := #[]
  /-- For each highlighted position, how many diagnostics were sent before it, so that a console
  can show the highlight in its place among them. -/
  highlightMarks : Array Nat := #[]
  highlightClears : Nat := 0
  invalidations : Nat := 0
  progress : Array Nat := #[]
  deriving Inhabited, Repr

end CsgPreview.Pipeline
