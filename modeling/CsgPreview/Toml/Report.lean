import CsgPreview.Toml.Parse

/-!
Error reports for TOML documents.

A report names the line and column of the first byte it is about, shows that line with a gutter
holding the line number, and marks the bytes below it with carets: as many as the span covers on
that line, at least one. The message follows on its own line. A report about the document as a
whole (a table conflict found after the last line) is only its message.

Columns count characters from the start of the line; a position past the end of the text counts
on past the last character.
-/

namespace CsgPreview.Toml

/-- An error about a document, with the bytes of the text it is about when there are such. -/
structure TomlError where
  message : String
  span : Option Span
  deriving Inhabited, Repr

def utf8Width (lead : UInt8) : Nat :=
  if lead < 0xC0 then 1 else if lead < 0xE0 then 2 else if lead < 0xF0 then 3 else 4

/-- The error of a failed reading of the text `b`: a failure points at the character where it
happened, or at the end of the text. -/
def ReadError.toTomlError (b : ByteArray) : ReadError → TomlError
  | .malformed f =>
    { message := f.message,
      span := some (if f.offset < b.size then
          ⟨f.offset, f.offset + min (utf8Width (b[f.offset]?.getD 0)) (b.size - f.offset)⟩
        else ⟨f.offset, f.offset⟩) }
  | .conflict e => { message := e.text, span := none }

/-- The zero-based line and column of a byte offset. Past the end of the text, the column goes on
from the last byte; a line start that cuts a character counts bytes instead of characters. -/
def linePosition (b : ByteArray) (index : Nat) : Nat × Nat :=
  if b.size == 0 then (0, index)
  else
    let safe := min index (b.size - 1)
    let beyond := index - safe
    let before := (b.extract 0 safe).toList
    let lineStart := match (before.zipIdx.filter (·.1 == 10)).getLast? with
      | some (_, i) => i + 1
      | none => 0
    let line := ((b.extract 0 lineStart).toList.filter (· == 10)).length
    let column := match String.fromUTF8? (b.extract lineStart (safe + 1)) with
      | some s => s.length - 1
      | none => safe - lineStart
    (line, column + beyond)

def spaces (n : Nat) : String := String.ofList (List.replicate n ' ')

def TomlError.render (text : String) (e : TomlError) : String :=
  match e.span with
  | none => e.message ++ "\n"
  | some span =>
    let (line, column) := linePosition text.toUTF8 span.start
    let number := toString (line + 1)
    let gutter := spaces (number.length + 1)
    let content := ((text.splitOn "\n")[line]?).getD ""
    let marks := max 1 (min (span.stop - span.start) (content.utf8ByteSize - column))
    "TOML parse error at line " ++ number ++ ", column " ++ toString (column + 1) ++ "\n" ++
      gutter ++ "|\n" ++
      number ++ " | " ++ content ++ "\n" ++
      gutter ++ "|" ++ spaces (column + 1) ++ String.ofList (List.replicate marks '^') ++ "\n" ++
      e.message ++ "\n"

end CsgPreview.Toml
