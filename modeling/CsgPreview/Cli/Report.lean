import CsgPreview.Pipeline.Coordinator

/-!
What the command line reports about a build: a summary of the three render chains, the cache
counters, and a JSON report for tools.

The summary is framed by rules of sixty box-drawing characters and gives for each chain its
entries and products in fixed-width columns, then whether the preview can be drawn. The JSON
report is written with two-space indentation, one field or element to a line, empty arrays as
`[]`.
-/

namespace CsgPreview.Cli

open Pipeline Csg Cache

def padRight (s : String) (width : Nat) : String := s.pushn ' ' (width - s.length)

def padLeft (s : String) (width : Nat) : String := "".pushn ' ' (width - s.length) ++ s

def rule : String := "".pushn '━' 60

def chainLine (name : String) (c : RenderChain) : String :=
  "  " ++ padRight (name ++ ":") 12 ++ " " ++ padLeft (toString c.size) 6 ++ " entries in " ++
    padLeft (toString c.products.length) 4 ++ " products\n"

def chainsReport (file : String) (chains : CompiledChains) : String :=
  "\n" ++ rule ++ "\nFile: " ++ file ++ "\n" ++ rule ++ "\n" ++
    chainLine "Primary" chains.primary ++ chainLine "Highlights" chains.highlights ++
    chainLine "Background" chains.background ++
    (if chains.previewAvailable then "✅ Preview available\n"
     else "⚠ Preview disabled, fallback draw path only\n") ++
    (if chains.normalizationAborted then "  Normalization stopped at the element budget\n" else "")

def cacheReport (stats : List CacheStats) : String :=
  "\nCaches:\n" ++ String.join (stats.map fun s => "  " ++ s.text ++ "\n")

def zeroPadded (n : Nat) (width : Nat) : String :=
  let digits := toString n
  "".pushn '0' (width - digits.length) ++ digits

/-- A time given in seconds since 1970-01-01 00:00:00 UTC as `YYYY-MM-DD HH:MM:SS UTC`, in the
Gregorian calendar: days are counted in 400-year eras from 0000-03-01, which puts leap days at
the end of each counted year. -/
def utcStamp (seconds : Int) : String :=
  let days := seconds.fdiv 86400
  let time := (seconds.fmod 86400).toNat
  let z := days + 719468
  let era := z.fdiv 146097
  let dayOfEra := (z - era * 146097).toNat
  let yearOfEra := (dayOfEra - dayOfEra / 1460 + dayOfEra / 36524 - dayOfEra / 146096) / 365
  let dayOfYear := dayOfEra - (365 * yearOfEra + yearOfEra / 4 - yearOfEra / 100)
  let shifted := (5 * dayOfYear + 2) / 153
  let day := dayOfYear - (153 * shifted + 2) / 5 + 1
  let month := if shifted < 10 then shifted + 3 else shifted - 9
  let year := (yearOfEra : Int) + era * 400 + (if month ≤ 2 then 1 else 0)
  let yearText := if year < 0 then "-" ++ zeroPadded year.natAbs 4 else zeroPadded year.toNat 4
  yearText ++ "-" ++ zeroPadded month 2 ++ "-" ++ zeroPadded day 2 ++ " " ++
    zeroPadded (time / 3600) 2 ++ ":" ++ zeroPadded (time / 60 % 60) 2 ++ ":" ++
    zeroPadded (time % 60) 2 ++ " UTC"

/-- A JSON value of a report. -/
inductive JsonText where
  | str (s : String)
  | nat (n : Nat)
  | bool (b : Bool)
  | arr (items : List JsonText)
  | obj (fields : List (String × JsonText))
  deriving Inhabited, Repr

def hexDigit (n : Nat) : Char := if n < 10 then Char.ofNat (48 + n) else Char.ofNat (87 + n)

/-- How a character is written in a JSON string: quote, backslash and control characters
escaped, the common ones by letter and the others by code. -/
def jsonChar (c : Char) : String :=
  match c with
  | '"' => "\\\""
  | '\\' => "\\\\"
  | '\n' => "\\n"
  | '\r' => "\\r"
  | '\t' => "\\t"
  | '\x08' => "\\b"
  | '\x0c' => "\\f"
  | c =>
    if c.toNat < 0x20 then "\\u00" ++ (hexDigit (c.toNat / 16)).toString ++ (hexDigit (c.toNat % 16)).toString
    else c.toString

def jsonString (s : String) : String := "\"" ++ String.join (s.toList.map jsonChar) ++ "\""

mutual

def JsonText.pretty (indent : Nat) : JsonText → String
  | .str s => jsonString s
  | .nat n => toString n
  | .bool b => if b then "true" else "false"
  | .arr [] => "[]"
  | .arr items => "[\n" ++ prettyItems (indent + 2) items ++ "\n" ++ "".pushn ' ' indent ++ "]"
  | .obj [] => "\x7b\x7d"
  | .obj fields => "\x7b\n" ++ prettyFields (indent + 2) fields ++ "\n" ++ "".pushn ' ' indent ++ "\x7d"

def prettyItems (indent : Nat) : List JsonText → String
  | [] => ""
  | [x] => "".pushn ' ' indent ++ x.pretty indent
  | x :: xs => "".pushn ' ' indent ++ x.pretty indent ++ ",\n" ++ prettyItems indent xs

def prettyFields (indent : Nat) : List (String × JsonText) → String
  | [] => ""
  | [(k, v)] => "".pushn ' ' indent ++ jsonString k ++ ": " ++ v.pretty indent
  | (k, v) :: rest =>
    "".pushn ' ' indent ++ jsonString k ++ ": " ++ v.pretty indent ++ ",\n" ++ prettyFields indent rest

end

/-- The machine-readable summary of one build. -/
structure CompileReport where
  file : String
  compiledAt : String
  generation : Nat
  primary : Nat
  highlights : Nat
  background : Nat
  products : Nat
  previewAvailable : Bool
  normalizationAborted : Bool
  dependencies : List String
  caches : List CacheStats

namespace CompileReport

def ofChains (file compiledAt : String) (chains : CompiledChains) (dependencies : List String)
    (caches : List CacheStats) : CompileReport :=
  { file, compiledAt, generation := chains.generation, primary := chains.primary.size,
    highlights := chains.highlights.size, background := chains.background.size,
    products := chains.primary.products.length, previewAvailable := chains.previewAvailable,
    normalizationAborted := chains.normalizationAborted, dependencies, caches }

def cacheJson (s : CacheStats) : JsonText :=
  .obj [("name", .str s.name), ("entries", .nat s.entries), ("weight", .nat s.weight),
    ("max_weight", .nat s.maxWeight), ("hits", .nat s.hits), ("misses", .nat s.misses),
    ("evictions", .nat s.evictions)]

def json (r : CompileReport) : JsonText :=
  .obj [("file", .str r.file), ("compiled_at", .str r.compiledAt), ("generation", .nat r.generation),
    ("primary", .nat r.primary), ("highlights", .nat r.highlights), ("background", .nat r.background),
    ("products", .nat r.products), ("preview_available", .bool r.previewAvailable),
    ("normalization_aborted", .bool r.normalizationAborted),
    ("dependencies", .arr (r.dependencies.map .str)), ("caches", .arr (r.caches.map cacheJson))]

def text (r : CompileReport) : String := r.json.pretty 0 ++ "\n"

end CompileReport

end CsgPreview.Cli
