import CsgPreview.Script.Grammar.Basic
import CsgPreview.Files.Store

/-!
Errors of the pipeline, from reading and parsing a document to rendering it, with the text each
one is shown as.
-/

namespace CsgPreview

open Script.Grammar Files

/-- What can go wrong between a document's text and its geometry. -/
inductive PipelineError where
  | parse (failure : Failure)
  | noTopLevelObject
  | cancelled
  | dependenciesStillChanging (checks : Nat)
  | workerBusy
  | kernel (message : String)
  | eval (message : String)
  | io (path : String) (error : IoError)
  | config (message : String)
  deriving Inhabited

namespace PipelineError

def kind : PipelineError → String
  | .parse _ => "Parse"
  | .noTopLevelObject => "NoTopLevelObject"
  | .cancelled => "Cancelled"
  | .dependenciesStillChanging _ => "DependenciesStillChanging"
  | .workerBusy => "WorkerBusy"
  | .kernel _ => "Kernel"
  | .eval _ => "Eval"
  | .io _ _ => "Io"
  | .config _ => "Config"

def text : PipelineError → String
  | .parse f => "Parser error in " ++ f.text
  | .noTopLevelObject => "Compilation failed! (no top level object found)"
  | .cancelled => "CSG generation cancelled."
  | .dependenciesStillChanging n => "dependencies still changing after " ++ toString n ++ " checks"
  | .workerBusy => "a render is already in progress"
  | .kernel m => "geometry kernel failure: " ++ m
  | .eval m => "evaluation error: " ++ m
  | .io path e => "failed to read " ++ path ++ ": " ++ e.text
  | .config m => "invalid configuration: " ++ m

def isCancelled : PipelineError → Bool
  | .cancelled => true
  | _ => false

def position? : PipelineError → Option Nat
  | .parse f => some f.position
  | _ => none

end PipelineError

def PipelineError.causes : PipelineError → List String
  | .io path e => [(PipelineError.io path e).text, e.text]
  | e => [e.text]

def PipelineError.chainText (e : PipelineError) : String := ": ".intercalate e.causes

/-- An error seen from further out: what was being done, then each cause in turn. -/
structure ErrorChain where
  messages : List String
  deriving Inhabited

def ErrorChain.text (e : ErrorChain) : String := ": ".intercalate e.messages

def PipelineError.within (e : PipelineError) (context : String) : ErrorChain :=
  ⟨context :: e.causes⟩

end CsgPreview
