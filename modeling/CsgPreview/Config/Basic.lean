/-!
The settings of the pipeline: cache budgets in bytes, the size of a primary chain above which
the preview is switched off, the auto-reload timings in milliseconds, the number of dependency
checks one reload may take, and extra directories searched for named files.

Settings are written back as a TOML document with the keys in a fixed order; a list of paths
stays on one line unless it has two or more entries, which go one to a line.
-/

namespace CsgPreview.Config

def mebibyte : Nat := 1024 * 1024

def wordMax : Nat := Nat.pow 2 64 - 1

/-- Pipeline settings, with their defaults. -/
structure PipelineConfig where
  previewCacheBytes : Nat := 100 * mebibyte
  exactCacheBytes : Nat := 100 * mebibyte
  previewElementLimit : Nat := 10000
  autoReloadInterval : Nat := 200
  settleDelay : Nat := 200
  maxDependencyChecks : Nat := 10
  libraryPaths : List String := []
  deriving Inhabited, DecidableEq, Repr

namespace PipelineConfig

def normalizerBudget (c : PipelineConfig) : Nat := min (2 * c.previewElementLimit) wordMax

def validate (c : PipelineConfig) : Except String Unit :=
  if c.previewElementLimit == 0 then .error "preview_element_limit must be positive"
  else if c.autoReloadInterval == 0 then .error "auto_reload_interval must be positive"
  else if c.maxDependencyChecks == 0 then .error "max_dependency_checks must be positive"
  else .ok ()

end PipelineConfig

def basicEscape (c : Char) : String :=
  match c with
  | '"' => "\\\""
  | '\\' => "\\\\"
  | '\x08' => "\\b"
  | '\t' => "\\t"
  | '\n' => "\\n"
  | '\x0c' => "\\f"
  | '\r' => "\\r"
  | c =>
    if c.toNat < 0x20 || c.toNat == 0x7f then
      let hex := String.ofList (Nat.toDigits 16 c.toNat)
      "\\u" ++ String.ofList (List.replicate (4 - hex.length) '0') ++ hex.toUpper
    else c.toString

/-- What one pass over a string finds for choosing how to write it: the longest runs of
apostrophes and of quotes (with the runs going on at the point reached), and whether it has a
backslash, a line feed, or a control character other than tab and line feed, which only an
escape can write. -/
structure StringShape where
  apostrophes : Nat := 0
  quotes : Nat := 0
  apostropheRun : Nat := 0
  quoteRun : Nat := 0
  backslash : Bool := false
  lineFeed : Bool := false
  control : Bool := false
  deriving Inhabited, Repr

/-- The four ways TOML writes a string. -/
inductive StringForm where
  | basic
  | literal
  | multilineBasic
  | multilineLiteral
  deriving Inhabited, Repr, DecidableEq

namespace StringShape

def step (s : StringShape) (c : Char) : StringShape :=
  let apostropheRun := if c == '\'' then s.apostropheRun + 1 else 0
  let quoteRun := if c == '"' then s.quoteRun + 1 else 0
  { apostrophes := max s.apostrophes apostropheRun, quotes := max s.quotes quoteRun,
    apostropheRun, quoteRun,
    backslash := s.backslash || c == '\\',
    lineFeed := s.lineFeed || c == '\n',
    control := s.control || (c != '\t' && c != '\n' && (c.toNat < 0x20 || c.toNat == 0x7f)) }

def of (text : String) : StringShape := text.toList.foldl step {}

/-- The first form that writes the string with no escape: a basic string, a literal string, a
multi-line basic string (no more than two quotes in a row), a multi-line literal string (no more
than two apostrophes in a row). A string that needs an escape is a basic string, on several
lines when it has a line feed. -/
def form (s : StringShape) : StringForm :=
  if !s.control && !s.backslash && s.quotes == 0 && !s.lineFeed then .basic
  else if !s.control && s.apostrophes == 0 && !s.lineFeed then .literal
  else if !s.control && !s.backslash && s.quotes ≤ 2 then .multilineBasic
  else if !s.control && s.apostrophes ≤ 2 then .multilineLiteral
  else if s.lineFeed then .multilineBasic
  else .basic

end StringShape

/-- The body of a multi-line basic string: line feeds as they are, a quote escaped only where it
would be the third in a row, other characters as in a basic string; `run` counts the quotes just
written. -/
def multilineBody : List Char → Nat → String
  | [], _ => ""
  | c :: cs, run =>
    if c == '"' then
      if run + 1 > 2 then "\\\"" ++ multilineBody cs 0 else "\"" ++ multilineBody cs (run + 1)
    else if c == '\n' then "\n" ++ multilineBody cs 0
    else basicEscape c ++ multilineBody cs 0

/-- A string as a TOML value, in the form its shape calls for. A multi-line string starts on a
new line when it has a line feed. -/
def tomlString (s : String) : String :=
  let shape := StringShape.of s
  let opening := if shape.lineFeed then "\n" else ""
  match shape.form with
  | .basic => "\"" ++ String.join (s.toList.map basicEscape) ++ "\""
  | .literal => "'" ++ s ++ "'"
  | .multilineBasic => "\"\"\"" ++ opening ++ multilineBody s.toList 0 ++ "\"\"\""
  | .multilineLiteral => "'''" ++ opening ++ s ++ "'''"

/-- A list of strings as a TOML array: inline with fewer than two entries, else one entry to a
line with a trailing comma. -/
def tomlArray (items : List String) : String :=
  match items with
  | [] => "[]"
  | [one] => "[" ++ tomlString one ++ "]"
  | _ => "[\n" ++ String.join (items.map fun i => "    " ++ tomlString i ++ ",\n") ++ "]"

def tomlIntegerMax : Nat := Nat.pow 2 63 - 1

def PipelineConfig.toToml (c : PipelineConfig) : Except String String :=
  let counts := [c.previewCacheBytes, c.exactCacheBytes, c.previewElementLimit,
    c.autoReloadInterval, c.settleDelay, c.maxDependencyChecks]
  if counts.any (· > tomlIntegerMax) then
    .error "Failed to serialize config: out-of-range value for u64 type"
  else .ok <|
    "preview_cache_bytes = " ++ toString c.previewCacheBytes ++ "\n" ++
    "exact_cache_bytes = " ++ toString c.exactCacheBytes ++ "\n" ++
    "preview_element_limit = " ++ toString c.previewElementLimit ++ "\n" ++
    "auto_reload_interval = " ++ toString c.autoReloadInterval ++ "\n" ++
    "settle_delay = " ++ toString c.settleDelay ++ "\n" ++
    "max_dependency_checks = " ++ toString c.maxDependencyChecks ++ "\n" ++
    "library_paths = " ++ tomlArray c.libraryPaths ++ "\n"

end CsgPreview.Config
