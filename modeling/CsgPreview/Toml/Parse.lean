import CsgPreview.Toml.Value
import CsgPreview.Decimal.Read

/-!
Reading TOML text into a document.

The reader works on the bytes of the text and follows the TOML grammar rule by rule. A rule that
does not match fails at a byte offset; the failure either lets an enclosing choice try something
else, or, once the reader is committed (after `=`, inside a string, after an opening bracket),
ends the reading. A failure collects what was being read ("invalid string") and what was
expected ("expected `]`") on its way out, innermost first, and may carry a cause ("number too
large to fit in target type"). Where a rule checks what it read and rejects it, the failure is
placed at the start of what it read.

Values: basic and literal strings (also multi-line), decimal, hexadecimal, octal and binary
integers in 64 bits, floats including `inf` and `nan`, booleans, dates and times, arrays and
inline tables. Whitespace is spaces and tabs, lines end in LF or CRLF, comments run to the end
of the line.
-/

namespace CsgPreview.Toml

/-- Something a failure was reading, or something it expected. -/
inductive Context where
  | label (what : String)
  | expected (what : String)
  deriving Inhabited, Repr

/-- A failure at a byte offset; a cut failure ends the reading. -/
structure Failure where
  offset : Nat
  cut : Bool := false
  contexts : List Context := []
  cause : Option String := none
  deriving Inhabited, Repr

namespace Failure

/-- `invalid <first label>`, `expected <all expected, comma separated>` and the cause, one to a
line. -/
def message (f : Failure) : String :=
  let label := f.contexts.findSome? fun | .label l => some l | .expected _ => none
  let expected := f.contexts.filterMap fun | .expected e => some e | .label _ => none
  let lines := (label.map ("invalid " ++ ·)).toList ++
    (if expected.isEmpty then [] else ["expected " ++ ", ".intercalate expected]) ++
    f.cause.toList
  "\n".intercalate lines

end Failure

def miss {α : Type} (offset : Nat) (contexts : List Context := []) : Except Failure (α × Nat) :=
  .error { offset, contexts }

def stop {α : Type} (offset : Nat) (contexts : List Context := []) (cause : Option String := none) :
    Except Failure (α × Nat) :=
  .error { offset, cut := true, contexts, cause }

def within {α : Type} (c : Context) : Except Failure (α × Nat) → Except Failure (α × Nat)
  | .error f => .error { f with contexts := f.contexts ++ [c] }
  | ok => ok

def committed {α : Type} : Except Failure (α × Nat) → Except Failure (α × Nat)
  | .error f => .error { f with cut := true }
  | ok => ok

def missed {α : Type} : Except Failure (α × Nat) → Bool
  | .error f => !f.cut
  | .ok _ => false

def byteAt (b : ByteArray) (pos : Nat) : Option UInt8 := b[pos]?

def startsWithAt (b : ByteArray) (pos : Nat) (s : String) : Bool :=
  (s.toUTF8.toList.zipIdx).all fun (c, i) => byteAt b (pos + i) == some c

def skipWhile (b : ByteArray) (p : UInt8 → Bool) (pos : Nat) : Nat :=
  if h : pos < b.size then
    if p b[pos] then skipWhile b p (pos + 1) else pos
  else pos
termination_by b.size - pos

def textOf (b : ByteArray) (start stop : Nat) : String :=
  (String.fromUTF8? (b.extract start stop)).getD ""

def isBlank (c : UInt8) : Bool := c == 32 || c == 9

def isCommentByte (c : UInt8) : Bool := c == 9 || (32 ≤ c && c ≤ 126) || 128 ≤ c

def isDigit (c : UInt8) : Bool := 48 ≤ c && c ≤ 57

def isHexDigit (c : UInt8) : Bool := isDigit c || (65 ≤ c && c ≤ 70) || (97 ≤ c && c ≤ 102)

def isBareKeyByte (c : UInt8) : Bool :=
  (65 ≤ c && c ≤ 90) || (97 ≤ c && c ≤ 122) || isDigit c || c == 45 || c == 95

def isBasicByte (c : UInt8) : Bool :=
  isBlank c || c == 0x21 || (0x23 ≤ c && c ≤ 0x5B) || (0x5D ≤ c && c ≤ 0x7E) || 0x80 ≤ c

def isLiteralByte (c : UInt8) : Bool :=
  c == 9 || (0x20 ≤ c && c ≤ 0x26) || (0x28 ≤ c && c ≤ 0x7E) || 0x80 ≤ c

def skipBlanks (b : ByteArray) (pos : Nat) : Nat := skipWhile b isBlank pos

def newline (b : ByteArray) (pos : Nat) : Option Nat :=
  match byteAt b pos with
  | some 10 => some (pos + 1)
  | some 13 => if byteAt b (pos + 1) == some 10 then some (pos + 2) else none
  | _ => none

def comment (b : ByteArray) (pos : Nat) : Option Nat :=
  if byteAt b pos == some 35 then some (skipWhile b isCommentByte (pos + 1)) else none

def lineEnding (b : ByteArray) (pos : Nat) : Option Nat :=
  match newline b pos with
  | some p => some p
  | none => if pos == b.size then some pos else none

def lineTrailing (b : ByteArray) (pos : Nat) : Except Failure (Unit × Nat) :=
  let p := skipBlanks b pos
  let p := (comment b p).getD p
  match lineEnding b p with
  | some q => .ok ((), q)
  | none => miss p

def skipBlankLines (b : ByteArray) : Nat → Nat → Nat
  | 0, pos => pos
  | fuel + 1, pos =>
    let p := skipBlanks b pos
    match newline b p with
    | some q => skipBlankLines b fuel q
    | none =>
      match comment b p with
      | some q => skipBlankLines b fuel q
      | none => p

def blankLines (b : ByteArray) (pos : Nat) : Nat := skipBlankLines b (b.size + 1) pos

def escapeContexts : List Context :=
  .label "escape sequence" :: ["b", "f", "n", "r", "t", "u", "U", "\\", "\""].map
    fun c => .expected ("`" ++ c ++ "`")

def hexEscape (b : ByteArray) (pos n : Nat) (what : String) : Except Failure (Char × Nat) :=
  let stop' := skipWhile b isHexDigit pos
  let count := min (stop' - pos) n
  if count != n then stop pos [.label what]
  else
    let code := (textOf b pos (pos + n)).foldl (fun acc c =>
      acc * 16 + (if c.isDigit then c.toNat - 48 else c.toLower.toNat - 87)) 0
    if code < 0xD800 || (0xDFFF < code && code ≤ 0x10FFFF) then .ok (Char.ofNat code, pos + n)
    else stop pos [.label what] (some (BuildError.outOfRange).text)

def escape (b : ByteArray) (pos : Nat) : Except Failure (Char × Nat) :=
  if byteAt b pos != some 92 then miss pos
  else
    match byteAt b (pos + 1) with
    | none => miss (pos + 1)
    | some c =>
      let p := pos + 2
      match c with
      | 98 => .ok ('\x08', p)
      | 102 => .ok ('\x0c', p)
      | 110 => .ok ('\n', p)
      | 114 => .ok ('\r', p)
      | 116 => .ok ('\t', p)
      | 117 => hexEscape b p 4 "unicode 4-digit hex code"
      | 85 => hexEscape b p 8 "unicode 8-digit hex code"
      | 92 => .ok ('\\', p)
      | 34 => .ok ('"', p)
      | _ => stop p escapeContexts

def basicChars (b : ByteArray) : Nat → Nat → String → Except Failure (String × Nat)
  | 0, pos, acc => .ok (acc, pos)
  | fuel + 1, pos, acc =>
    let run := skipWhile b isBasicByte pos
    if run > pos then basicChars b fuel run (acc ++ textOf b pos run)
    else
      match escape b pos with
      | .ok (c, q) => basicChars b fuel q (acc.push c)
      | .error f => if f.cut then .error f else .ok (acc, pos)

def basicString (b : ByteArray) (pos : Nat) : Except Failure (String × Nat) :=
  if byteAt b pos != some 34 then miss pos
  else do
    let (s, p) ← basicChars b (b.size + 1) (pos + 1) ""
    if byteAt b p == some 34 then .ok (s, p + 1) else stop p [.label "basic string"]

def literalString (b : ByteArray) (pos : Nat) : Except Failure (String × Nat) :=
  if byteAt b pos != some 39 then miss pos [.label "literal string"]
  else
    let p := skipWhile b isLiteralByte (pos + 1)
    if byteAt b p == some 39 then .ok (textOf b (pos + 1) p, p + 1)
    else stop p [.label "literal string"]

def runOf (b : ByteArray) (q : UInt8) (pos : Nat) : Nat := skipWhile b (· == q) pos - pos

/-- The body of a multi-line basic string up to its closing `"""`; one or two quotes right
before the closing ones belong to the body. -/
def multiBasicBody (b : ByteArray) : Nat → Nat → String → Except Failure (String × Nat)
  | 0, pos, acc => .ok (acc, pos)
  | fuel + 1, pos, acc =>
    let quotes := runOf b 34 pos
    if quotes ≥ 3 then
      let kept := min (quotes - 3) 2
      .ok (acc ++ String.ofList (List.replicate kept '"'), pos + kept)
    else if quotes > 0 then multiBasicBody b fuel (pos + quotes) (acc ++ String.ofList (List.replicate quotes '"'))
    else
      let run := skipWhile b isBasicByte pos
      if run > pos then multiBasicBody b fuel run (acc ++ textOf b pos run)
      else
        match newline b pos with
        | some q => multiBasicBody b fuel q (acc.push '\n')
        | none =>
          -- a backslash at the end of a line takes the line break and the blanks after it
          let afterBlanks := skipBlanks b (pos + 1)
          if byteAt b pos == some 92 && (newline b afterBlanks).isSome then
            let rec skipBreaks : Nat → Nat → Nat
              | 0, p => p
              | n + 1, p =>
                let p := skipBlanks b p
                match newline b p with
                | some q => skipBreaks n q
                | none => p
            multiBasicBody b fuel (skipBreaks (b.size + 1) afterBlanks) acc
          else
            match escape b pos with
            | .ok (c, q) => multiBasicBody b fuel q (acc.push c)
            | .error f => if f.cut then .error f else .ok (acc, pos)

/-- A multi-line basic string `"""..."""` at `pos`; a line break right after the opening quotes
is not part of it. -/
def multiBasicString (b : ByteArray) (pos : Nat) : Except Failure (String × Nat) :=
  if !startsWithAt b pos "\"\"\"" then miss pos [.label "multiline basic string"]
  else
    let p := (newline b (pos + 3)).getD (pos + 3)
    within (.label "multiline basic string") do
      let (s, q) ← committed (multiBasicBody b (b.size + 1) p "")
      if startsWithAt b q "\"\"\"" then .ok (s, q + 3) else stop q

def multiLiteralBody (b : ByteArray) : Nat → Nat → String → Except Failure (String × Nat)
  | 0, pos, acc => .ok (acc, pos)
  | fuel + 1, pos, acc =>
    let quotes := runOf b 39 pos
    if quotes ≥ 3 then
      let kept := min (quotes - 3) 2
      .ok (acc ++ String.ofList (List.replicate kept '\''), pos + kept)
    else if quotes > 0 then multiLiteralBody b fuel (pos + quotes) (acc ++ String.ofList (List.replicate quotes '\''))
    else
      let run := skipWhile b isLiteralByte pos
      if run > pos then multiLiteralBody b fuel run (acc ++ textOf b pos run)
      else
        match newline b pos with
        | some q => multiLiteralBody b fuel q (acc.push '\n')
        | none => .ok (acc, pos)

def multiLiteralString (b : ByteArray) (pos : Nat) : Except Failure (String × Nat) :=
  if !startsWithAt b pos "'''" then miss pos [.label "multiline literal string"]
  else
    let p := (newline b (pos + 3)).getD (pos + 3)
    within (.label "multiline literal string") do
      let (s, q) ← multiLiteralBody b (b.size + 1) p ""
      if startsWithAt b q "'''" then .ok (s, q + 3) else stop q

def string (b : ByteArray) (pos : Nat) : Except Failure (String × Nat) :=
  let r := multiBasicString b pos
  if !missed r then r else
  let r := basicString b pos
  if !missed r then r else
  let r := multiLiteralString b pos
  if !missed r then r else
  literalString b pos

/-- Digits with single underscores between them, from a digit at `pos`; `digit` says which bytes
are digits. -/
def digitRun (b : ByteArray) (digit : UInt8 → Bool) : Nat → Nat → Except Failure (Unit × Nat)
  | 0, pos => .ok ((), pos)
  | fuel + 1, pos =>
    match byteAt b pos with
    | some c =>
      if digit c then digitRun b digit fuel (pos + 1)
      else if c == 95 then
        if (byteAt b (pos + 1)).any digit then digitRun b digit fuel (pos + 2)
        else stop (pos + 1) [.expected "digit"]
      else .ok ((), pos)
    | none => .ok ((), pos)

def zeroPrefixable (b : ByteArray) (pos : Nat) : Except Failure (Unit × Nat) :=
  if (byteAt b pos).any isDigit then digitRun b isDigit (b.size + 1) (pos + 1) else miss pos

def decimalInteger (b : ByteArray) (pos : Nat) : Except Failure (Unit × Nat) :=
  within (.label "integer") <|
    let p := if byteAt b pos == some 43 || byteAt b pos == some 45 then pos + 1 else pos
    match byteAt b p with
    | some 48 => .ok ((), p + 1)
    | some c => if isDigit c then digitRun b isDigit (b.size + 1) (p + 1) else miss p
    | none => miss p

def exponent (b : ByteArray) (pos : Nat) : Except Failure (Unit × Nat) :=
  if byteAt b pos == some 101 || byteAt b pos == some 69 then
    let p := if byteAt b (pos + 1) == some 43 || byteAt b (pos + 1) == some 45 then pos + 2 else pos + 1
    committed (zeroPrefixable b p)
  else miss pos

def fraction (b : ByteArray) (pos : Nat) : Except Failure (Unit × Nat) :=
  if byteAt b pos == some 46 then committed (within (.expected "digit") (zeroPrefixable b (pos + 1)))
  else miss pos

def floatText (b : ByteArray) (pos : Nat) : Except Failure (Unit × Nat) := do
  let ((), p) ← decimalInteger b pos
  match exponent b p with
  | .ok r => .ok r
  | .error f =>
    if f.cut then .error f
    else do
      let ((), q) ← fraction b p
      match exponent b q with
      | .ok r => .ok r
      | .error g => if g.cut then .error g else .ok ((), q)

def withoutUnderscores (s : String) : String := String.ofList (s.toList.filter (· != '_'))

def specialFloat (b : ByteArray) (pos : Nat) : Except Failure (Float × Nat) :=
  let (negative, p) := match byteAt b pos with
    | some 43 => (false, pos + 1)
    | some 45 => (true, pos + 1)
    | _ => (false, pos)
  if startsWithAt b p "inf" then
    .ok (if negative then Decimal.doubleOfFields true 2047 0 else Decimal.doubleOfFields false 2047 0, p + 3)
  else if startsWithAt b p "nan" then .ok (Decimal.doubleOfFields negative 2047 (Nat.pow 2 51), p + 3)
  else miss p

def float (b : ByteArray) (pos : Nat) : Except Failure (Float × Nat) :=
  within (.label "floating-point number") <|
    match floatText b pos with
    | .ok ((), p) =>
      match Decimal.readFloat? (withoutUnderscores (textOf b pos p)) with
      | some x => if x == Decimal.doubleOfFields false 2047 0 then stop pos else .ok (x, p)
      | none => stop pos
    | .error f => if f.cut then .error f else specialFloat b pos

def int64Max : Nat := Nat.pow 2 63 - 1

def fitInt64 (negative : Bool) (n : Nat) : Except String Int :=
  if negative then
    if n ≤ int64Max + 1 then .ok (-(n : Int)) else .error "number too small to fit in target type"
  else if n ≤ int64Max then .ok n else .error "number too large to fit in target type"

def digitsValue (base : Nat) (s : String) : Nat :=
  s.foldl (fun acc c =>
    acc * base + (if c.isDigit then c.toNat - 48 else c.toLower.toNat - 87)) 0

def prefixedInteger (b : ByteArray) (pos base : Nat) (what : String) (digit : UInt8 → Bool) :
    Except Failure (Int × Nat) :=
  committed <|
    match within (.label what) (if (byteAt b (pos + 2)).any digit then
        digitRun b digit (b.size + 1) (pos + 3) else stop (pos + 2)) with
    | .error f => .error f
    | .ok ((), p) =>
      match fitInt64 false (digitsValue base (withoutUnderscores (textOf b (pos + 2) p))) with
      | .ok v => .ok (v, p)
      | .error why => .error { offset := pos, cause := some why }

def integer (b : ByteArray) (pos : Nat) : Except Failure (Int × Nat) :=
  if startsWithAt b pos "0x" then prefixedInteger b pos 16 "hexadecimal integer" isHexDigit
  else if startsWithAt b pos "0o" then prefixedInteger b pos 8 "octal integer" fun c => 48 ≤ c && c ≤ 55
  else if startsWithAt b pos "0b" then prefixedInteger b pos 2 "binary integer" fun c => c == 48 || c == 49
  else do
    let ((), p) ← decimalInteger b pos
    let text := withoutUnderscores (textOf b pos p)
    let (negative, digits) := match text.toList with
      | '-' :: rest => (true, rest)
      | '+' :: rest => (false, rest)
      | cs => (false, cs)
    match fitInt64 negative (digitsValue 10 (String.ofList digits)) with
    | .ok v => .ok (v, p)
    | .error why => stop pos [] (some why)

def fixedDigits (b : ByteArray) (pos n : Nat) : Except Failure (Nat × Nat) :=
  if (List.range n).all fun i => (byteAt b (pos + i)).any isDigit then
    .ok (digitsValue 10 (textOf b pos (pos + n)), pos + n)
  else miss pos

def rangedDigits (b : ByteArray) (pos lo hi : Nat) : Except Failure (Nat × Nat) := do
  let (v, p) ← fixedDigits b pos 2
  if lo ≤ v && v ≤ hi then .ok (v, p)
  else .error { offset := pos, cause := some BuildError.outOfRange.text }

def partialTime (b : ByteArray) (pos : Nat) : Except Failure (Unit × Nat) := do
  let (_, p) ← rangedDigits b pos 0 23
  if byteAt b p != some 58 then miss p
  else committed do
    let (_, p) ← rangedDigits b (p + 1) 0 59
    if byteAt b p != some 58 then miss p
    else
      let (_, p) ← rangedDigits b (p + 1) 0 60
      if byteAt b p == some 46 && (byteAt b (p + 1)).any isDigit then
        .ok ((), skipWhile b isDigit (p + 1))
      else .ok ((), p)

def timeOffset (b : ByteArray) (pos : Nat) : Except Failure (Unit × Nat) :=
  within (.label "time offset") <|
    match byteAt b pos with
    | some 90 | some 122 => .ok ((), pos + 1)
    | some 43 | some 45 => committed do
      let (_, p) ← rangedDigits b (pos + 1) 0 23
      if byteAt b p != some 58 then miss p
      else
        let (_, p) ← rangedDigits b (p + 1) 0 59
        .ok ((), p)
    | _ => miss pos

def monthDays (year month : Nat) : Nat :=
  if month == 2 then
    if year % 4 == 0 && (year % 100 != 0 || year % 400 == 0) then 29 else 28
  else if month == 4 || month == 6 || month == 9 || month == 11 then 30 else 31

/-- A date `YYYY-MM-DD` with an optional time and offset, whose failures are failures of a
date-time, or a time alone, whose failures are failures of a time. -/
def dateTime (b : ByteArray) (pos : Nat) : Except Failure (Unit × Nat) :=
  let date : Except Failure (Unit × Nat) := do
    let (year, p) ← fixedDigits b pos 4
    if byteAt b p != some 45 then miss p
    else committed do
      let (month, p) ← rangedDigits b (p + 1) 1 12
      if byteAt b p != some 45 then miss p
      else
        let (day, q) ← rangedDigits b (p + 1) 1 31
        if day > monthDays year month then
          .error { offset := p + 1, contexts := [], cause := some BuildError.outOfRange.text }
        else
          let delimited := byteAt b q == some 84 || byteAt b q == some 116 || byteAt b q == some 32
          if !delimited then .ok ((), q)
          else
            match partialTime b (q + 1) with
            | .ok ((), r) =>
              match timeOffset b r with
              | .ok ((), s) => .ok ((), s)
              | .error f => if f.cut then .error f else .ok ((), r)
            | .error f => if f.cut then .error f else .ok ((), q)
  match within (.label "date-time") date with
  | .error f => if f.cut then .error f else within (.label "time") (partialTime b pos)
  | ok => ok

def notAValue : List Context := [.label "string", .expected "`\"`", .expected "`'`"]

def simpleKey (b : ByteArray) (pos : Nat) : Except Failure (Key × Nat) :=
  match byteAt b pos with
  | some 34 => do
    let (name, p) ← basicString b pos
    .ok (⟨name, textOf b pos p, ⟨pos, p⟩⟩, p)
  | some 39 => do
    let (name, p) ← literalString b pos
    .ok (⟨name, textOf b pos p, ⟨pos, p⟩⟩, p)
  | some _ =>
    let p := skipWhile b isBareKeyByte pos
    if p > pos then .ok (⟨textOf b pos p, textOf b pos p, ⟨pos, p⟩⟩, p) else miss pos
  | none => miss pos

def keyPart (b : ByteArray) (pos : Nat) : Except Failure (Key × Nat) := do
  let (k, p) ← simpleKey b (skipBlanks b pos)
  .ok (k, skipBlanks b p)

def keyParts (b : ByteArray) : Nat → Nat → List Key → Except Failure ((List Key) × Nat)
  | 0, pos, acc => .ok (acc, pos)
  | fuel + 1, pos, acc =>
    if byteAt b pos != some 46 then .ok (acc, pos)
    else
      match keyPart b (pos + 1) with
      | .ok (k, p) => keyParts b fuel p (acc ++ [k])
      | .error f => if f.cut then .error f else .ok (acc, pos)

def key (b : ByteArray) (pos : Nat) : Except Failure ((List Key) × Nat) :=
  within (.label "key") do
    let (k, p) ← keyPart b pos
    keyParts b (b.size + 1) p [k]

def spanned {α : Type} (pos : Nat) (r : Except Failure (α × Nat)) (f : α → TomlValue) :
    Except Failure ((TomlValue × Span) × Nat) :=
  r.map fun (a, p) => ((f a, ⟨pos, p⟩), p)

mutual

def value (b : ByteArray) : Nat → Nat → Except Failure ((TomlValue × Span) × Nat)
  | 0, pos => miss pos
  | fuel + 1, pos =>
    match byteAt b pos with
    | none => miss pos
    | some c =>
      if c == 34 || c == 39 then spanned pos (string b pos) .string
      else if c == 91 then array b fuel pos
      else if c == 123 then inlineTable b fuel pos
      else if c == 43 || c == 45 || isDigit c then
        match dateTime b pos with
        | .ok ((), p) => .ok ((.datetime (textOf b pos p), ⟨pos, p⟩), p)
        | .error f =>
          if f.cut then .error f
          else
            match float b pos with
            | .ok (x, p) => .ok ((.float x, ⟨pos, p⟩), p)
            | .error g => if g.cut then .error g else spanned pos (integer b pos) .integer
      else if c == 95 then within (.expected "leading digit") (spanned pos (integer b pos) .integer)
      else if c == 46 then within (.expected "leading digit") (spanned pos (float b pos) .float)
      else if c == 116 then
        if startsWithAt b pos "true" then .ok ((.boolean true, ⟨pos, pos + 4⟩), pos + 4)
        else stop pos notAValue
      else if c == 102 then
        if startsWithAt b pos "false" then .ok ((.boolean false, ⟨pos, pos + 5⟩), pos + 5)
        else stop pos notAValue
      else if c == 105 then
        if startsWithAt b pos "inf" then .ok ((.float (Decimal.doubleOfFields false 2047 0), ⟨pos, pos + 3⟩), pos + 3)
        else miss pos notAValue
      else if c == 110 then
        if startsWithAt b pos "nan" then
          .ok ((.float (Decimal.doubleOfFields false 2047 (Nat.pow 2 51)), ⟨pos, pos + 3⟩), pos + 3)
        else miss pos notAValue
      else miss pos notAValue

def arrayValue (b : ByteArray) : Nat → Nat → Except Failure ((TomlValue × Span) × Nat)
  | 0, pos => miss pos
  | fuel + 1, pos => do
    let (v, p) ← value b fuel (blankLines b pos)
    .ok (v, blankLines b p)

def arrayRest (b : ByteArray) : Nat → Nat → List (TomlValue × Span) →
    Except Failure ((List (TomlValue × Span)) × Nat)
  | 0, pos, acc => .ok (acc, pos)
  | fuel + 1, pos, acc =>
    if byteAt b pos != some 44 then .ok (acc, pos)
    else
      match arrayValue b fuel (pos + 1) with
      | .ok (v, p) => arrayRest b fuel p (acc ++ [v])
      | .error f => if f.cut then .error f else .ok (acc, pos)

def array (b : ByteArray) : Nat → Nat → Except Failure ((TomlValue × Span) × Nat)
  | 0, pos => miss pos
  | fuel + 1, pos => do
    let (items, p) ← match arrayValue b fuel (pos + 1) with
      | .ok (v, p) =>
        match arrayRest b fuel p [v] with
        | .ok (items, q) => .ok (items, if byteAt b q == some 44 then q + 1 else q)
        | .error f => .error f
      | .error f => if f.cut then .error f else .ok ([], pos + 1)
    let q := blankLines b p
    if byteAt b q == some 93 then .ok ((.array items, ⟨pos, q + 1⟩), q + 1)
    else stop q [.label "array", .expected "`]`"]

def inlinePair (b : ByteArray) : Nat → Nat → Except Failure ((List Key × Key × TomlValue × Span) × Nat)
  | 0, pos => miss pos
  | fuel + 1, pos => do
    let (path, p) ← key b pos
    if byteAt b p != some 61 then stop p [.expected "`.`", .expected "`=`"]
    else
      let ((v, span), q) ← committed (value b fuel (skipBlanks b (p + 1)))
      let leaf := (path.getLast?).getD default
      .ok ((path.dropLast, leaf, v, span), skipBlanks b q)

def inlineRest (b : ByteArray) : Nat → Nat → List (List Key × Key × TomlValue × Span) →
    Except Failure ((List (List Key × Key × TomlValue × Span)) × Nat)
  | 0, pos, acc => .ok (acc, pos)
  | fuel + 1, pos, acc =>
    if byteAt b pos != some 44 then .ok (acc, pos)
    else
      match inlinePair b fuel (pos + 1) with
      | .ok (kv, p) => inlineRest b fuel p (acc ++ [kv])
      | .error f => if f.cut then .error f else .ok (acc, pos)

def inlineTable (b : ByteArray) : Nat → Nat → Except Failure ((TomlValue × Span) × Nat)
  | 0, pos => miss pos
  | fuel + 1, pos => do
    let (pairs, p) ← match inlinePair b fuel (pos + 1) with
      | .ok (kv, p) => inlineRest b fuel p [kv]
      | .error f => if f.cut then .error f else .ok ([], pos + 1)
    let entries ← match inlineEntries pairs with
      | .ok e => .ok e
      | .error e => .error { offset := pos + 1, cut := true, cause := some e.text }
    let q := skipBlanks b p
    if byteAt b q == some 125 then .ok ((.inline entries, ⟨pos, q + 1⟩), q + 1)
    else stop q [.label "inline table", .expected "`\x7d`"]

end

/-- Why a document cannot be read: a failure in its text, or a table conflict found when the
last table was filed. -/
inductive ReadError where
  | malformed (f : Failure)
  | conflict (e : BuildError)
  deriving Inhabited

def keyvalLine (b : ByteArray) (builder : Builder) (pos : Nat) : Except Failure (Builder × Nat) :=
  committed do
    let (path, p) ← key b pos
    if byteAt b p != some 61 then stop p [.expected "`.`", .expected "`=`"]
    else
      let ((v, span), q) ← value b (b.size + 1) (skipBlanks b (p + 1))
      let ((), r) ← within (.expected "`#`") (within (.expected "newline") (lineTrailing b q))
      let leaf := (path.getLast?).getD default
      match builder.keyval path.dropLast leaf v span with
      | .ok builder => .ok (builder, r)
      | .error e => .error { offset := pos, cause := some e.text }

def headerLine (b : ByteArray) (builder : Builder) (pos : Nat) : Except Failure (Builder × Nat) :=
  committed <| within (.label "table header") <|
    if byteAt b (pos + 1) == none then miss pos
    else
      let isArray := byteAt b (pos + 1) == some 91
      let opening := if isArray then 2 else 1
      let closing := if isArray then "]]" else "]"
      do
        let (path, p) ← committed (key b (pos + opening))
        if !startsWithAt b p closing then stop p [.expected "`.`", .expected ("`" ++ closing ++ "`")]
        else
          let span : Span := ⟨pos, p + closing.length⟩
          let ((), r) ← committed (within (.expected "`#`") (within (.expected "newline")
            (lineTrailing b (p + closing.length))))
          let built := if isArray then builder.arrayHeader path span else builder.header path span
          match built with
          | .ok builder => .ok (builder, r)
          | .error e => .error { offset := pos, cause := some e.text }

def documentLines (b : ByteArray) : Nat → Builder → Nat → Except Failure (Builder × Nat)
  | 0, builder, pos => .ok (builder, pos)
  | fuel + 1, builder, pos =>
    match byteAt b pos with
    | none => .ok (builder, pos)
    | some 35 =>
      match comment b pos with
      | some p =>
        match lineEnding b p with
        | some q => documentLines b fuel builder (skipBlanks b q)
        | none => .error { offset := p, cut := true }
      | none => .ok (builder, pos)
    | some 91 => do
      let (builder, p) ← headerLine b builder pos
      documentLines b fuel builder (skipBlanks b p)
    | some 10 | some 13 =>
      match newline b pos with
      | some p => documentLines b fuel builder (skipBlanks b p)
      | none => .ok (builder, pos)
    | some _ => do
      let (builder, p) ← keyvalLine b builder pos
      documentLines b fuel builder (skipBlanks b p)

def readDocument (text : String) : Except ReadError Table :=
  let b := text.toUTF8
  let start := if startsWithAt b 0 "﻿" then 3 else 0
  match documentLines b (b.size + 1) {} (skipBlanks b start) with
  | .error f => .error (.malformed f)
  | .ok (builder, pos) =>
    if pos != b.size then .error (.malformed { offset := pos })
    else
      match builder.finish with
      | .ok builder => .ok builder.root
      | .error e => .error (.conflict e)

end CsgPreview.Toml
