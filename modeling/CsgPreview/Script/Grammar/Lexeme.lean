import CsgPreview.Script.Grammar.Basic
import CsgPreview.Script.Syntax
import CsgPreview.Decimal.Read

/-!
Lexemes of the grammar: blanks and comments between tokens, literal marks, names, numbers,
strings and file references, each read from a character position. A lexeme read as a rule of its
own is remembered among the attempts when it fails.
-/

namespace CsgPreview.Script.Grammar

namespace Source

def startsWithAt (src : Source) (p : Nat) (s : List Char) : Bool :=
  s.zipIdx.all fun (c, k) => src.get? (p + k) == some c

def literal? (src : Source) (p : Nat) (s : String) : Option Nat :=
  if src.startsWithAt p s.toList then some (p + s.length) else none

def lineCommentEnd (src : Source) (p : Nat) : Nat :=
  if h : p < src.size then
    if src.chars[p] == '\n' then p else lineCommentEnd src (p + 1)
  else p
termination_by src.size - p

def blockCommentEnd? (src : Source) (p : Nat) : Option Nat :=
  if h : p < src.size then
    if src.startsWithAt p ['*', '/'] then some (p + 2) else blockCommentEnd? src (p + 1)
  else none
termination_by src.size - p

def skip (src : Source) (p : Nat) : Nat :=
  if h : p < src.size then
    let c := src.chars[p]
    if c == ' ' || c == '\t' || c == '\r' || c == '\n' then skip src (p + 1)
    else if src.startsWithAt p ['/', '/'] then
      let q := src.lineCommentEnd (p + 2)
      if p < q then skip src q else p
    else if src.startsWithAt p ['/', '*'] then
      match src.blockCommentEnd? (p + 2) with
      | some q => if p < q then skip src q else p
      | none => p
    else p
  else p
termination_by src.size - p
decreasing_by all_goals omega

def takeWhileFrom (src : Source) (keep : Char → Bool) (p : Nat) : Nat :=
  if h : p < src.size then
    if keep src.chars[p] then takeWhileFrom src keep (p + 1) else p
  else p
termination_by src.size - p

def charIs (src : Source) (p : Nat) (test : Char → Bool) : Bool :=
  match src.get? p with
  | some c => test c
  | none => false

end Source

def isAsciiLetter (c : Char) : Bool := ('a' ≤ c && c ≤ 'z') || ('A' ≤ c && c ≤ 'Z')

def isNameChar (c : Char) : Bool := isAsciiLetter c || c.isDigit || c == '_'

def isNameStart (c : Char) : Bool := isAsciiLetter c || c == '_' || c == '$'

/-- Resolve the escapes of a string literal: `\n`, `\t`, `\r` stand for their control
characters, any other escaped character for itself, and a final lone backslash stays. -/
def unescape : List Char → List Char
  | [] => []
  | ['\\'] => ['\\']
  | '\\' :: c :: rest =>
    (match c with
     | 'n' => '\n'
     | 't' => '\t'
     | 'r' => '\r'
     | other => other) :: unescape rest
  | c :: rest => c :: unescape rest

namespace Source

def name? (src : Source) (p : Nat) : Option (String × Nat) :=
  if src.charIs p isNameStart then
    let q := src.takeWhileFrom isNameChar (p + 1)
    some (src.slice p q, q)
  else none

def keyword? (src : Source) (p : Nat) (word : String) : Option Nat :=
  match src.literal? p word with
  | some q => if src.charIs q isNameChar then none else some q
  | none => none

/-- A number: digits with an optional point and digits, or a point and digits; then an
optional exponent. Its value is the nearest double. -/
def number? (src : Source) (p : Nat) : Option (Float × Nat) :=
  let mantissaEnd? : Option Nat :=
    if src.charIs p Char.isDigit then
      let q := src.takeWhileFrom Char.isDigit p
      if src.charIs q (· == '.') then some (src.takeWhileFrom Char.isDigit (q + 1)) else some q
    else if src.charIs p (· == '.') && src.charIs (p + 1) Char.isDigit then
      some (src.takeWhileFrom Char.isDigit (p + 1))
    else none
  match mantissaEnd? with
  | none => none
  | some q =>
    let e :=
      if src.charIs q (fun c => c == 'e' || c == 'E') then
        let r := if src.charIs (q + 1) (fun c => c == '+' || c == '-') then q + 2 else q + 1
        if src.charIs r Char.isDigit then src.takeWhileFrom Char.isDigit r else q
      else q
    (Decimal.readFloat? (src.slice p e)).map fun x => (x, e)

def stringBodyEnd (src : Source) (p : Nat) : Nat :=
  if h : p < src.size then
    if src.chars[p] == '\\' && p + 1 < src.size then stringBodyEnd src (p + 2)
    else if src.chars[p] == '"' then p
    else stringBodyEnd src (p + 1)
  else p
termination_by src.size - p

def string? (src : Source) (p : Nat) : Option (String × Nat) :=
  match src.literal? p "\"" with
  | none => none
  | some q =>
    let r := src.stringBodyEnd q
    match src.literal? r "\"" with
    | some e => some (String.ofList (unescape (src.chars.extract q r).toList), e)
    | none => none

def fileRef? (src : Source) (p : Nat) : Option (String × Nat) :=
  match src.literal? p "<" with
  | none => none
  | some q =>
    let r := src.takeWhileFrom (fun c => c != '>' && c != '\n') q
    match src.literal? r ">" with
    | some e => some (src.slice q r, e)
    | none => none

def oneOf? (src : Source) (p : Nat) : List (String × α) → Option (α × Nat)
  | [] => none
  | (s, v) :: rest =>
    match src.literal? p s with
    | some q => some (v, q)
    | none => src.oneOf? p rest

end Source

@[inline] def token (rule : Rule) (scan : Nat → Option (α × Nat)) (p : Nat) (t : Attempts) :
    Outcome α :=
  withRule rule p t fun t =>
    match scan p with
    | some (v, q) => .ok v q t
    | none => .fail t

end CsgPreview.Script.Grammar
