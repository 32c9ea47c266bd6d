/-!
Diagnostics sent while the pipeline works: a level, the part of the pipeline that sent it and a
message. Work that reports diagnostics runs in `Logged`, which appends them in order.
-/

namespace CsgPreview

inductive LogLevel where
  | error | warn | info | debug | trace
  deriving Repr, DecidableEq, Inhabited

def LogLevel.name : LogLevel → String
  | .error => "ERROR" | .warn => "WARN" | .info => "INFO" | .debug => "DEBUG" | .trace => "TRACE"

def LogLevel.rank : LogLevel → Nat
  | .error => 1 | .warn => 2 | .info => 3 | .debug => 4 | .trace => 5

/-- The part of the pipeline a diagnostic comes from. -/
inductive LogSource where
  | parser | scope | instantiation | sceneTree | builtins | booleans | normalizer | lru | caches
  | coordinator | scheduler | worker
  deriving Repr, DecidableEq, Inhabited

def LogSource.path : LogSource → String
  | .parser => "polyframe_preview::io::parser"
  | .scope => "polyframe_preview::ast::context"
  | .instantiation => "polyframe_preview::tree::instantiate"
  | .sceneTree => "polyframe_preview::tree"
  | .builtins => "polyframe_preview::tree::builtins"
  | .booleans => "polyframe_preview::geometry::boolean"
  | .normalizer => "polyframe_preview::csg::normalizer"
  | .lru => "polyframe_preview::cache::lru"
  | .caches => "polyframe_preview::cache"
  | .coordinator => "polyframe_preview::pipeline::coordinator"
  | .scheduler => "polyframe_preview::pipeline::scheduler"
  | .worker => "polyframe_preview::pipeline::worker"

structure LogRecord where
  level : LogLevel
  source : LogSource
  message : String
  deriving Repr, Inhabited

def LogRecord.text (r : LogRecord) : String := r.level.name ++ " " ++ r.message

abbrev Logged := StateM (Array LogRecord)

def report (level : LogLevel) (source : LogSource) (message : String) : Logged Unit :=
  modify fun log => log.push ⟨level, source, message⟩

end CsgPreview
