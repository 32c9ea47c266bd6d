import CsgPreview.Script.Value
import CsgPreview.Log
import CsgPreview.Arith.Basic

/-!
Built-in functions of the modelling language. They see only positional arguments. Angles are in
degrees: trigonometric functions convert their argument to radians, inverse ones convert their
result to degrees. A numeric function given something other than a finite number answers `undef`;
an unknown function answers `undef` with a warning.
-/

namespace CsgPreview.Script

open Arith (pi toRadians toDegrees)

def minOf (a b : Float) : Float := if a < b then a else b

def maxOf (a b : Float) : Float := if a > b then a else b

def extremeCandidates : List Value → Option (List Float)
  | [single] => single.asNumbers?
  | args => args.mapM Value.asNumber?

def unaryFunction? : String → Option (Float → Float)
  | "sin" => some fun x => (toRadians x).sin
  | "cos" => some fun x => (toRadians x).cos
  | "tan" => some fun x => (toRadians x).tan
  | "asin" => some fun x => toDegrees x.asin
  | "acos" => some fun x => toDegrees x.acos
  | "atan" => some fun x => toDegrees x.atan
  | "sqrt" => some Float.sqrt
  | "abs" => some Float.abs
  | "floor" => some Float.floor
  | "ceil" => some Float.ceil
  | "round" => some Float.round
  | "exp" => some Float.exp
  | "ln" => some Float.log
  | "sign" => some fun x => if x > 0 then 1.0 else if x < 0 then -1.0 else 0.0
  | _ => none

def pieceText : Value → String
  | .str s => s
  | v => v.text

def concatItems : List Value → List Value
  | [] => []
  | .vector items :: rest => items ++ concatItems rest
  | v :: rest => v :: concatItems rest

def callFunction (name : String) (args : List Value) : Logged Value :=
  let number (i : Nat) : Option Float := (args[i]?).bind Value.asNumber?
  match unaryFunction? name with
  | some f => pure ((number 0).map (Value.number ∘ f) |>.getD .undef)
  | none =>
    match name with
    | "atan2" => pure <| match number 0, number 1 with
      | some y, some x => .number (toDegrees (Float.atan2 y x))
      | _, _ => .undef
    | "pow" => pure <| match number 0, number 1 with
      | some b, some e => .number (Float.pow b e)
      | _, _ => .undef
    | "min" => pure <| match extremeCandidates args with
      | some (x :: xs) => .number ((x :: xs).foldl minOf (1.0 / 0.0))
      | _ => .undef
    | "max" => pure <| match extremeCandidates args with
      | some (x :: xs) => .number ((x :: xs).foldl maxOf (-1.0 / 0.0))
      | _ => .undef
    | "len" => pure <| match args.head? >>= Value.length? with
      | some n => .number n.toFloat
      | none => .undef
    | "str" => pure (.str (String.join (args.map pieceText)))
    | "concat" => pure (.vector (concatItems args))
    | _ => do
      report .warn .scope ("Ignoring unknown function '" ++ name ++ "'")
      pure .undef

end CsgPreview.Script
