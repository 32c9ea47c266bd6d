import CsgPreview.Scene.Builtins
import CsgPreview.Scene.Tree
import CsgPreview.Script.Load
import CsgPreview.Error

/-!
Instantiation: a design's module calls, evaluated in a scope, become a scene tree.

A call of a user module becomes a group holding the instantiation of the module's body, in a scope
where the parameters are bound and the call's own child statements are remembered, with the scope
they were written in, for `children()`. A call of a built-in module becomes a node of its kind; a
leaf ignores child statements, any other node instantiates them in a scope of their own that also
sees the call's `$` arguments. `children()` instantiates the remembered child statements (all, or
those at the given indices) in a group. Unknown modules are skipped with a warning.

At most 200 user module calls may be open on one path; the next one is an error. That bound
also ends the recursion: a user call opens one more call; `children()` goes back to the
statements of the call one step up the chain of callers; and a built-in goes down to its own
child statements.
-/

namespace CsgPreview.Scene

open Script

def maxModuleDepth : Nat := 200

abbrev Instantiating := ExceptT PipelineError Logged

def recursionError (name : String) : PipelineError :=
  .eval ("recursion detected calling module '" ++ name ++ "'")

/-- The indices `children(...)` selects: one non-negative number, or the non-negative numbers of
a vector of finite numbers; none for all children. -/
def selectedChildren (args : Arguments) : Option (List Nat) :=
  match args.get? "index" (some 0) with
  | some (.number i) => if i >= 0 then some [(Arith.floatToU64 i).toNat] else none
  | some (.vector items) =>
    ((Value.vector items).asNumbers?).map fun ns =>
      (ns.filter (· >= 0)).map fun n => (Arith.floatToU64 n).toNat
  | _ => none

theorem Instantiation.sizeOf_lt_of_mem_children {inst child : Instantiation}
    (h : child ∈ inst.children.instantiations) : sizeOf child < sizeOf inst := by
  have := List.sizeOf_lt_of_mem h
  cases inst with
  | mk name arguments modifiers children position =>
    cases children
    simp only [Instantiation.mk.sizeOf_spec, Body.mk.sizeOf_spec] at this ⊢
    omega

def instantiateCall (depth : Nat) (scope : Scope) (inst : Instantiation) :
    Instantiating (List Built) :=
  if inst.name == "children" then
    match _caller : scope.caller with
    | none => pure []
    | some (body, callerScope) => do
      let args ← scope.evaluateArguments inst.arguments
      -- entering a body keeps the callers; said here so that the recursion is seen to climb
      let inner := { (← callerScope.enter body) with caller := callerScope.caller }
      let available := body.instantiations
      let made ← match selectedChildren args with
        | some indices => indices.mapM fun i =>
          match available[i]? with
          | some child => instantiateCall depth inner child
          | none => do
            report .warn .instantiation ("Children index (" ++ toString i ++
              ") out of bounds (" ++ toString available.length ++ " children)")
            pure []
        | none => available.mapM (instantiateCall depth inner)
      pure [.node .group inst.modifiers inst.position made.flatten]
  else
    match scope.findModule? inst.name with
    | some def_ => do
      if _tooDeep : depth >= maxModuleDepth then throw (recursionError inst.name) else
      let called ← scope.callScope def_ inst.arguments
      let called ← (called.withCaller inst.children scope).bindBody def_.body
      let made ← def_.body.instantiations.mapM (instantiateCall (depth + 1) called)
      pure [.node .group inst.modifiers inst.position made.flatten]
    | none => do
      let args ← scope.evaluateArguments inst.arguments
      match ← builtinKind inst.name args scope with
      | none =>
        report .warn .instantiation ("Ignoring unknown module '" ++ inst.name ++ "'")
        pure []
      | some kind =>
        if kind.isLeaf then
          if !inst.children.instantiations.isEmpty then
            report .warn .instantiation ("module " ++ inst.name ++
              "() does not support child modules")
          pure [.node kind inst.modifiers inst.position []]
        else
          let inner ← scope.enter inst.children
          let inner := args.named.foldl (fun s (n, v) =>
            if n.startsWith "$" then s.setVariable n v else s) inner
          -- the child statements see the same callers, as above
          let made ← inst.children.instantiations.mapM
            (instantiateCall depth { inner with caller := scope.caller })
          pure [.node kind inst.modifiers inst.position made.flatten]
termination_by (maxModuleDepth - depth, scope.callerDepth, sizeOf inst)
decreasing_by
  · -- `children(index)`: the chain of callers is one call shorter
    rw [Scope.callerDepth_mk_caller, Scope.callerDepth_of_caller _caller]
    exact Prod.Lex.right _ (Prod.Lex.left _ _ (Nat.lt_succ_self _))
  · -- `children()`
    rw [Scope.callerDepth_mk_caller, Scope.callerDepth_of_caller _caller]
    exact Prod.Lex.right _ (Prod.Lex.left _ _ (Nat.lt_succ_self _))
  · -- a user module call: one more call open, below the bound
    exact Prod.Lex.left _ _ (by omega)
  · -- a child statement of a built-in: the same callers, a smaller statement
    rw [Scope.callerDepth_mk_caller]
    exact Prod.Lex.right _ (Prod.Lex.right _ (Instantiation.sizeOf_lt_of_mem_children ‹_›))

/-- The scene tree of a design's top-level calls, in a scope entered from `context`; an error
when no call makes a node. -/
def instantiate (design : Design) (context : Scope) : Instantiating SceneTree := do
  let scope ← context.enter design.body
  let made ← design.body.instantiations.mapM (instantiateCall 0 scope)
  if made.flatten.isEmpty then throw .noTopLevelObject
  SceneTree.ofBuilt (.node .group {} 0 made.flatten)

end CsgPreview.Scene
