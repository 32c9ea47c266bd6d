import CsgPreview.Script.Syntax
import CsgPreview.Script.Functions

/-!
Scopes and the evaluation of expressions.

A scope is a chain of frames, innermost first; each frame binds variables and user modules, and
lookups take the innermost binding. A scope also carries the child statements of the module call
being instantiated (with the scope they were written in), which `children()` instantiates.

Entering a body binds all of its module definitions first, then evaluates its assignments in
order, each seeing the ones before it; a later assignment to a name replaces an earlier one.
`&&` and `||` evaluate their right side only when needed; every other operation evaluates both
sides, left first.
-/

namespace CsgPreview.Script

/-- Bindings of one scope level. -/
structure Frame where
  vars : List (String × Value) := []
  modules : List ModuleDef := []
  deriving Inhabited

def bindName (name : String) (v : α) : List (String × α) → List (String × α)
  | [] => [(name, v)]
  | (n, w) :: rest => if n == name then (n, v) :: rest else (n, w) :: bindName name v rest

def bindModule (def_ : ModuleDef) : List ModuleDef → List ModuleDef
  | [] => [def_]
  | d :: rest => if d.name == def_.name then def_ :: rest else d :: bindModule def_ rest

/-- A chain of frames, innermost first, with the child statements of the current module call. -/
structure Scope where
  frames : List Frame
  caller : Option (Body × Scope) := none
  deriving Inhabited

/-- Evaluated call arguments: positional ones, and named ones in order. -/
structure Arguments where
  positional : List Value := []
  named : List (String × Value) := []
  deriving Inhabited

namespace Arguments

def get? (args : Arguments) (name : String) (position : Option Nat) : Option Value :=
  let found := match args.named.find? (·.1 == name) with
    | some (_, v) => some v
    | none => position.bind fun i => args.positional[i]?
  found.filter fun v => !v.isUndef

def number? (args : Arguments) (name : String) (position : Option Nat) : Option Float :=
  (args.get? name position).bind Value.asNumber?

def flag (args : Arguments) (name : String) (position : Option Nat) : Bool :=
  ((args.get? name position).map Value.truthy).getD false

end Arguments

namespace Scope

def global : Scope :=
  { frames := [{ vars := [
      ("$fn", .number 0), ("$fa", .number 12), ("$fs", .number 2), ("$t", .number 0),
      ("$vpt", .vector [.number 0, .number 0, .number 0]),
      ("$vpr", .vector [.number 55, .number 0, .number 25]),
      ("$vpd", .number 500), ("PI", .number Arith.pi)] }] }

def child (s : Scope) : Scope := { s with frames := {} :: s.frames }

def setVariable (s : Scope) (name : String) (v : Value) : Scope :=
  match s.frames with
  | [] => { s with frames := [{ vars := [(name, v)] }] }
  | f :: rest => { s with frames := { f with vars := bindName name v f.vars } :: rest }

def defineModule (s : Scope) (def_ : ModuleDef) : Scope :=
  match s.frames with
  | [] => { s with frames := [{ modules := [def_] }] }
  | f :: rest => { s with frames := { f with modules := bindModule def_ f.modules } :: rest }

def lookup? (s : Scope) (name : String) : Option Value :=
  s.frames.findSome? fun f => (f.vars.find? (·.1 == name)).map (·.2)

def findModule? (s : Scope) (name : String) : Option ModuleDef :=
  s.frames.findSome? fun f => f.modules.find? (·.name == name)

def withCaller (s : Scope) (body : Body) (callerScope : Scope) : Scope :=
  { s with caller := some (body, callerScope) }

/-- How many module calls back the chain of callers goes: each call's child statements are
remembered with the scope they were written in, which has callers of its own. -/
def callerDepth : Scope → Nat
  | ⟨_, none⟩ => 0
  | ⟨_, some (_, callerScope)⟩ => callerScope.callerDepth + 1

theorem callerDepth_of_caller {s callerScope : Scope} {body : Body}
    (h : s.caller = some (body, callerScope)) : s.callerDepth = callerScope.callerDepth + 1 := by
  cases s
  simp only at h
  simp [callerDepth, h]

@[simp] theorem callerDepth_mk_caller (frames : List Frame) (s : Scope) :
    ({ frames, caller := s.caller } : Scope).callerDepth = s.callerDepth := by
  cases s with
  | mk _ caller => cases caller <;> rfl

/-- Result of a binary operation on evaluated operands (other than `&&` and `||`);
an ordering between incomparable values is `undef`. -/
def binaryValue (op : BinaryOp) (a b : Value) : Value :=
  let ordered (accept : Ordering → Bool) : Value :=
    match a.compare? b with
    | some o => .bool (accept o)
    | none => .undef
  match op with
  | .and | .or => .undef
  | .add => a.add b
  | .sub => a.sub b
  | .mul => a.mul b
  | .div => a.div b
  | .rem => a.rem b
  | .lt => ordered (· == .lt)
  | .le => ordered (· != .gt)
  | .gt => ordered (· == .gt)
  | .ge => ordered (· != .lt)
  | .eq => .bool (a.equals b)
  | .ne => .bool (!a.equals b)

def maxRangeElements : Nat := 1000000

/-- The elements of a range from finite bounds: none for a zero step or a step pointing away from
the end; otherwise `floor((stop - start) / step) + 1` elements counted in 64-bit words (a
saturated count wraps to zero), `undef` beyond the limit. -/
def rangeValue (start step stop : Float) : Logged Value :=
  if step == 0 || (stop - start) / step < 0 then pure (.vector [])
  else
    let count := ((stop - start) / step).floor.toUInt64.toNat
    let count := (count + 1) % Nat.pow 2 64
    if count > maxRangeElements then do
      report .warn .scope ("Range [" ++ Decimal.plainOfFloat start ++ " : " ++
        Decimal.plainOfFloat step ++ " : " ++ Decimal.plainOfFloat stop ++ "] has too many elements")
      pure .undef
    else
      pure (.vector ((List.range count).map fun i => .number (start + step * i.toFloat)))

mutual
def evaluate (s : Scope) : Expr → Logged Value
  | .undef => pure .undef
  | .bool b => pure (.bool b)
  | .number x => pure (.number x)
  | .str t => pure (.str t)
  | .vector items => do return .vector (← s.evaluateList items)
  | .range start step stop => do
    let a := (← s.evaluate start).asNumber?
    let b := (← s.evaluate stop).asNumber?
    let c : Option Float ← match step with
      | some e => do
        let v ← s.evaluate e
        pure v.asNumber?
      | none => pure (some 1.0)
    match a, c, b with
    | some a, some c, some b => rangeValue a c b
    | _, _, _ => pure .undef
  | .var name => do
    match s.lookup? name with
    | some v => pure v
    | none =>
      report .warn .scope ("Ignoring unknown variable '" ++ name ++ "'")
      pure .undef
  | .index base position => do
    let b ← s.evaluate base
    let i ← s.evaluate position
    pure (b.index i)
  | .unary .neg e => do return (← s.evaluate e).neg
  | .unary .not e => do return .bool !(← s.evaluate e).truthy
  | .binary .and l r => do
    if (← s.evaluate l).truthy then return .bool (← s.evaluate r).truthy
    else return .bool false
  | .binary .or l r => do
    if (← s.evaluate l).truthy then return .bool true
    else return .bool (← s.evaluate r).truthy
  | .binary op l r => do
    let a ← s.evaluate l
    let b ← s.evaluate r
    pure (binaryValue op a b)
  | .ternary c yes no => do
    if (← s.evaluate c).truthy then s.evaluate yes else s.evaluate no
  | .call name args => do
    let evaluated ← s.evaluateArguments args
    callFunction name evaluated.positional

def evaluateList (s : Scope) : List Expr → Logged (List Value)
  | [] => pure []
  | e :: rest => do
    let v ← s.evaluate e
    let vs ← s.evaluateList rest
    pure (v :: vs)

def evaluateArguments (s : Scope) : List Argument → Logged Arguments
  | [] => pure {}
  | ⟨name, e⟩ :: rest => do
    let v ← s.evaluate e
    let args ← s.evaluateArguments rest
    match name with
    | some n => pure { args with named := (n, v) :: args.named }
    | none => pure { args with positional := v :: args.positional }
end

def bindBody (s : Scope) (body : Body) : Logged Scope := do
  let s := body.definitions.foldl defineModule s
  body.assignments.foldlM (fun s a => do return s.setVariable a.name (← s.evaluate a.value)) s

def enter (s : Scope) (body : Body) : Logged Scope := s.child.bindBody body

/-- The scope of a user module call: each parameter takes the named argument of its name, else
the next positional argument, else its default evaluated in the new scope, else `undef`; then
every named argument starting with `$` is bound too. Arguments are evaluated in this scope. -/
def callScope (s : Scope) (def_ : ModuleDef) (arguments : List Argument) : Logged Scope := do
  let args ← s.evaluateArguments arguments
  let rec bindParams (scope : Scope) (positional : List Value) :
      List Parameter → Logged Scope
    | [] => pure scope
    | p :: ps => do
      match args.named.find? (·.1 == p.name) with
      | some (_, v) => bindParams (scope.setVariable p.name v) positional ps
      | none =>
        match positional with
        | v :: rest => bindParams (scope.setVariable p.name v) rest ps
        | [] =>
          let v ← match p.default with
            | some e => scope.evaluate e
            | none => pure .undef
          bindParams (scope.setVariable p.name v) [] ps
  let scope ← bindParams s.child args.positional def_.parameters
  pure (args.named.foldl (fun scope (n, v) =>
    if n.startsWith "$" then scope.setVariable n v else scope) scope)

end Scope

end CsgPreview.Script
