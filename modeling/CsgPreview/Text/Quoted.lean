import CsgPreview.Text.GraphemeExtend
import CsgPreview.Text.Printable

/-!
Quoted text: a string between double quotes, with the quote, the backslash, the common control
characters written as backslash escapes and every other character that cannot be shown written
as `\u{hex}`.

A character cannot be shown when it is not printable (see `isPrintable`) or when it extends a
grapheme cluster (see `isGraphemeExtend`): such a mark would join the quote or the character
before it, so it is escaped wherever it stands. File names are quoted the same way, with the
apostrophe escaped as well.
-/

namespace CsgPreview.Text

def hexDigits (n : Nat) : String := String.ofList (Nat.toDigits 16 n)

def escapeChar (apostrophe : Bool) (c : Char) : String :=
  match c with
  | '\x00' => "\\0"
  | '\t' => "\\t"
  | '\r' => "\\r"
  | '\n' => "\\n"
  | '\\' => "\\\\"
  | '"' => "\\\""
  | '\'' => if apostrophe then "\\'" else "'"
  | _ =>
    if isGraphemeExtend c || !isPrintable c then "\\u" ++ "\x7b" ++ hexDigits c.toNat ++ "\x7d"
    else c.toString

def quote (s : String) : String :=
  "\"" ++ String.join (s.toList.map (escapeChar false)) ++ "\""

/-- A file name in double quotes with its special characters, the apostrophe included, escaped.
-/
def quotePath (s : String) : String :=
  "\"" ++ String.join (s.toList.map (escapeChar true)) ++ "\""

end CsgPreview.Text
