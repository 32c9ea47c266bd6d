import CsgPreview.Config.Basic
import CsgPreview.Toml.Report
import CsgPreview.Files.Store
import CsgPreview.Text.Quoted
import CsgPreview.Decimal.Plain

/-!
Loading settings: from a TOML document, from a settings file, and from the environment.

A document sets the settings it names and leaves the others at their defaults; keys the settings
do not know are ignored. The keys are taken in the order they were written and the first value of
the wrong kind ends the reading with an error pointing at it. Byte counts and the element limit
are machine words, the two timings are 64-bit milliseconds, the number of dependency checks is a
32-bit count, and the library paths are an array of strings.

`load` reads `polyframe.toml` of the working directory when there is one, then lets the
environment override: `POLYFRAME_PREVIEW_CACHE`, `POLYFRAME_EXACT_CACHE` and
`POLYFRAME_ELEMENT_LIMIT` replace their settings, and `POLYFRAME_LIBRARY_PATH`, split at colons,
adds library paths. The settings are validated last.
-/

namespace CsgPreview.Config

open Toml Files

def unexpectedValue : TomlValue → String
  | .string s => "string " ++ Text.quote s
  | .integer i => "integer `" ++ toString i ++ "`"
  | .float x =>
    let shown := Decimal.plainOfFloat x
    let finite := !(x.isNaN || x.isInf)
    "floating point `" ++ shown ++ (if finite && !shown.contains '.' then ".0" else "") ++ "`"
  | .boolean b => "boolean `" ++ toString b ++ "`"
  | .datetime _ => "map"
  | .array _ => "sequence"
  | .inline _ => "map"

/-- How an entry of a table that is not a plain value is named in an error, with the span the
error points at: the table's own, else the key's. -/
def unexpectedEntry (key : Key) : Item → String × Span
  | .value v span => (unexpectedValue v, span)
  | .table t => ("map", t.span.getD key.span)
  | .tables _ => ("sequence", key.span)

def wrongType (what : String × Span) (expected : String) : TomlError :=
  { message := "invalid type: " ++ what.1 ++ ", expected " ++ expected, span := some what.2 }

def readCount (bound : Nat) (expected : String) (key : Key) : Item → Except TomlError Nat
  | .value (.integer i) span =>
    if 0 ≤ i && i.toNat ≤ bound then .ok i.toNat
    else .error { message := "invalid value: integer `" ++ toString i ++ "`, expected " ++ expected,
                  span := some span }
  | item => .error (wrongType (unexpectedEntry key item) expected)

def readPath : TomlValue × Span → Except TomlError String
  | (.string s, _) => .ok s
  | (v, span) => .error (wrongType (unexpectedValue v, span) "path string")

def readPaths (key : Key) : Item → Except TomlError (List String)
  | .value (.array items) _ => items.mapM readPath
  | .tables ts => match ts with
    | [] => .ok []
    | t :: _ => .error (wrongType ("map", t.span.getD key.span) "path string")
  | item => .error (wrongType (unexpectedEntry key item) "a sequence")

def countMax : Nat := Nat.pow 2 32 - 1

def setEntry (c : PipelineConfig) : Key × Item → Except TomlError PipelineConfig
  | (key, item) =>
    match key.name with
    | "preview_cache_bytes" => return { c with previewCacheBytes := ← readCount wordMax "usize" key item }
    | "exact_cache_bytes" => return { c with exactCacheBytes := ← readCount wordMax "usize" key item }
    | "preview_element_limit" =>
      return { c with previewElementLimit := ← readCount wordMax "usize" key item }
    | "auto_reload_interval" => return { c with autoReloadInterval := ← readCount wordMax "u64" key item }
    | "settle_delay" => return { c with settleDelay := ← readCount wordMax "u64" key item }
    | "max_dependency_checks" =>
      return { c with maxDependencyChecks := ← readCount countMax "u32" key item }
    | "library_paths" => return { c with libraryPaths := ← readPaths key item }
    | _ => return c

def PipelineConfig.ofToml (text : String) : Except TomlError PipelineConfig :=
  match readDocument text with
  | .error e => .error (e.toTomlError text.toUTF8)
  | .ok root => root.entries.foldlM setEntry {}

def PipelineConfig.fromFile (files : FileStore) (path shown : String) : Except String PipelineConfig := do
  let text ← match files.readText path with
    | .ok text => pure text
    | .error e => throw ("Failed to read config file: " ++ Text.quotePath shown ++ ": " ++ e.text)
  let config ← match PipelineConfig.ofToml text with
    | .ok c => pure c
    | .error e => throw ("Failed to parse config file: " ++ Text.quotePath shown ++ ": " ++ e.render text)
  config.validate
  return config

def configFile : String := "polyframe.toml"

def readWord (s : String) : Except String Nat :=
  let digits := match s.toList with
    | ['+'] => ['+']
    | '+' :: rest => rest
    | cs => cs
  if s.isEmpty then .error "cannot parse integer from empty string"
  else
    digits.foldlM (fun acc c =>
      if !c.isDigit then .error "invalid digit found in string"
      else
        let next := acc * 10 + (c.toNat - 48)
        if next > wordMax then .error "number too large to fit in target type" else .ok next) 0

def splitSearchPath (s : String) : List String := s.splitOn ":"

def overrideWord (env : List (String × String)) (name what : String) (set : Nat → PipelineConfig)
    (c : PipelineConfig) : Except String PipelineConfig :=
  match env.lookup name with
  | none => .ok c
  | some value =>
    match readWord value with
    | .ok n => .ok (set n)
    | .error why => .error (name ++ " is not " ++ what ++ ": " ++ value ++ ": " ++ why)

def PipelineConfig.withEnvironment (env : List (String × String)) (c : PipelineConfig) :
    Except String PipelineConfig := do
  let c ← overrideWord env "POLYFRAME_PREVIEW_CACHE" "a byte count"
    (fun n => { c with previewCacheBytes := n }) c
  let c ← overrideWord env "POLYFRAME_EXACT_CACHE" "a byte count"
    (fun n => { c with exactCacheBytes := n }) c
  let c ← overrideWord env "POLYFRAME_ELEMENT_LIMIT" "a number"
    (fun n => { c with previewElementLimit := n }) c
  match env.lookup "POLYFRAME_LIBRARY_PATH" with
  | none => return c
  | some paths => return { c with libraryPaths := c.libraryPaths ++ splitSearchPath paths }

/-- The settings of the working directory's `polyframe.toml` if there is one, else the defaults,
with the environment's overrides, validated. -/
def PipelineConfig.load (files : FileStore) (env : List (String × String)) :
    Except String PipelineConfig := do
  let c ← if (files.resolve configFile).toBool then PipelineConfig.fromFile files configFile configFile
    else pure {}
  let c ← c.withEnvironment env
  c.validate
  return c

end CsgPreview.Config
