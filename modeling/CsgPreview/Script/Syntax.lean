import CsgPreview.Decimal.Plain
import CsgPreview.Text.Quoted

/-!
Syntax of the modelling language: expressions, module calls with their child statements, module
definitions and bodies; and the source-like text of each, which is how the tree is shown.

A body keeps its statements grouped by kind: assignments in order, module definitions (visible to
the whole body) and module calls in source order.
-/

namespace CsgPreview.Script

inductive UnaryOp where
  | neg
  | not
  deriving Repr, DecidableEq

inductive BinaryOp where
  | add | sub | mul | div | rem
  | lt | le | gt | ge | eq | ne
  | and | or
  deriving Repr, DecidableEq

def BinaryOp.symbol : BinaryOp → String
  | .add => "+" | .sub => "-" | .mul => "*" | .div => "/" | .rem => "%"
  | .lt => "<" | .le => "<=" | .gt => ">" | .ge => ">=" | .eq => "==" | .ne => "!="
  | .and => "&&" | .or => "||"

mutual
/-- Expressions. -/
inductive Expr where
  | undef
  | bool (b : Bool)
  | number (x : Float)
  | str (s : String)
  | vector (items : List Expr)
  /-- `[start : stop]` or `[start : step : stop]` -/
  | range (start : Expr) (step : Option Expr) (stop : Expr)
  | var (name : String)
  | index (base position : Expr)
  | unary (op : UnaryOp) (operand : Expr)
  | binary (op : BinaryOp) (lhs rhs : Expr)
  | ternary (condition yes no : Expr)
  | call (name : String) (arguments : List Argument)

/-- A call argument, positional when it has no name. -/
structure Argument where
  name : Option String
  value : Expr
end

instance : Inhabited Expr := ⟨.undef⟩

structure Parameter where
  name : String
  default : Option Expr

structure Assignment where
  name : String
  value : Expr

/-- Debug marks of a module call: `!` root, `%` background, `#` highlight, `*` disabled. -/
structure Modifiers where
  root : Bool := false
  background : Bool := false
  highlight : Bool := false
  disabled : Bool := false
  deriving Repr, DecidableEq, Inhabited

namespace Modifiers

def mark (m : Modifiers) : Char → Modifiers
  | '!' => { m with root := true }
  | '%' => { m with background := true }
  | '#' => { m with highlight := true }
  | '*' => { m with disabled := true }
  | _ => m

def text (m : Modifiers) : String :=
  (if m.root then "!" else "") ++ (if m.background then "%" else "") ++
  (if m.highlight then "#" else "") ++ (if m.disabled then "*" else "")

end Modifiers

mutual
/-- A module call with its child statements; `position` is the byte offset of the call
(modifiers included) in its source text. -/
structure Instantiation where
  name : String
  arguments : List Argument
  modifiers : Modifiers
  children : Body
  position : Nat

/-- A user module `module name(parameters) { ... }`. -/
structure ModuleDef where
  name : String
  parameters : List Parameter
  body : Body

/-- The statements of one scope, grouped by kind. -/
structure Body where
  assignments : List Assignment := []
  definitions : List ModuleDef := []
  instantiations : List Instantiation := []
end

instance : Inhabited Body := ⟨{}⟩

namespace Body

def isEmpty (b : Body) : Bool :=
  b.assignments.isEmpty && b.definitions.isEmpty && b.instantiations.isEmpty

def extend (b other : Body) : Body :=
  ⟨b.assignments ++ other.assignments, b.definitions ++ other.definitions,
    b.instantiations ++ other.instantiations⟩

def extendDefinitions (b other : Body) : Body :=
  { b with definitions := b.definitions ++ other.definitions }

def statementCount (b : Body) : Nat :=
  b.instantiations.length + b.assignments.length + b.definitions.length

end Body

mutual
/-- Source-like text of an expression: operations fully parenthesized, numbers in plain
decimal, strings quoted. -/
def Expr.text : Expr → String
  | .undef => "undef"
  | .bool b => if b then "true" else "false"
  | .number x => Decimal.plainOfFloat x
  | .str s => Text.quote s
  | .vector items => "[" ++ Expr.listText items ++ "]"
  | .range start none stop => "[" ++ start.text ++ " : " ++ stop.text ++ "]"
  | .range start (some step) stop =>
    "[" ++ start.text ++ " : " ++ step.text ++ " : " ++ stop.text ++ "]"
  | .var name => name
  | .index base position => base.text ++ "[" ++ position.text ++ "]"
  | .unary .neg e => "-" ++ e.text
  | .unary .not e => "!" ++ e.text
  | .binary op l r => "(" ++ l.text ++ " " ++ op.symbol ++ " " ++ r.text ++ ")"
  | .ternary c t e => "(" ++ c.text ++ " ? " ++ t.text ++ " : " ++ e.text ++ ")"
  | .call name args => name ++ "(" ++ Argument.listText args ++ ")"

def Expr.listText : List Expr → String
  | [] => ""
  | [e] => e.text
  | e :: rest => e.text ++ ", " ++ Expr.listText rest

def Argument.text : Argument → String
  | ⟨some name, value⟩ => name ++ " = " ++ value.text
  | ⟨none, value⟩ => value.text

def Argument.listText : List Argument → String
  | [] => ""
  | [a] => a.text
  | a :: rest => a.text ++ ", " ++ Argument.listText rest
end

def Parameter.text : Parameter → String
  | ⟨name, some value⟩ => name ++ " = " ++ value.text
  | ⟨name, none⟩ => name

def Parameter.listText (ps : List Parameter) : String :=
  ", ".intercalate (ps.map Parameter.text)

def indentText (level : Nat) : String := String.ofList (List.replicate level '\t')

mutual
/-- Source-like text of a body, one statement per line, nested statements indented by tabs:
assignments first, then module definitions, then module calls. -/
def Body.dump (level : Nat) : Body → String
  | ⟨assignments, definitions, instantiations⟩ =>
    String.join (assignments.map fun a => indentText level ++ a.name ++ " = " ++ a.value.text ++ ";\n") ++
    ModuleDef.listDump level definitions ++ Instantiation.listDump level instantiations

def ModuleDef.listDump (level : Nat) : List ModuleDef → String
  | [] => ""
  | ⟨name, parameters, body⟩ :: rest =>
    indentText level ++ "module " ++ name ++ "(" ++ Parameter.listText parameters ++ ") \x7b\n" ++
      body.dump (level + 1) ++ indentText level ++ "\x7d\n" ++ ModuleDef.listDump level rest

def Instantiation.listDump (level : Nat) : List Instantiation → String
  | [] => ""
  | ⟨name, arguments, modifiers, children, _⟩ :: rest =>
    indentText level ++ modifiers.text ++ name ++ "(" ++ Argument.listText arguments ++ ")" ++
      (if children.isEmpty then ";\n"
       else " \x7b\n" ++ children.dump (level + 1) ++ indentText level ++ "\x7d\n") ++
      Instantiation.listDump level rest
end

end CsgPreview.Script
