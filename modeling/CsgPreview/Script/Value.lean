import CsgPreview.Decimal.Plain
import CsgPreview.Text.Quoted
import CsgPreview.Arith.Remainder

/-!
Values of the modelling language: `undef`, booleans, numbers (doubles), strings and vectors.

Arithmetic works on numbers and, elementwise, on vectors (a vector pair is cut to the shorter);
a number times a vector scales it, two numeric vectors of one length multiply to their dot
product; every other combination is `undef`. Ordering compares two numbers, two strings or two
booleans and nothing else.
-/

namespace CsgPreview.Script

inductive Value where
  | undef
  | bool (b : Bool)
  | number (x : Float)
  | str (s : String)
  | vector (items : List Value)
  deriving Inhabited

namespace Value

def truthy : Value → Bool
  | undef => false
  | bool b => b
  | number x => x != 0
  | str s => !s.isEmpty
  | vector items => !items.isEmpty

def isUndef : Value → Bool
  | undef => true
  | _ => false

def asNumber? : Value → Option Float
  | number x => if x.isFinite then some x else none
  | _ => none

def asNumbers? : Value → Option (List Float)
  | vector items => items.mapM asNumber?
  | _ => none

def length? : Value → Option Nat
  | str s => some s.length
  | vector items => some items.length
  | _ => none

def index (v position : Value) : Value :=
  match position.asNumber? with
  | none => undef
  | some i =>
    if i < 0 then undef
    else
      let k := i.toUInt64.toNat
      match v with
      | vector items => items[k]?.getD undef
      | str s => match s.toList[k]? with
        | some c => str c.toString
        | none => undef
      | _ => undef

def elementwise (f : Float → Float → Float) : Value → Value → Value
  | number a, number b => number (f a b)
  | vector as, vector bs => vector (zipItems as bs)
  | _, _ => undef
where
  zipItems : List Value → List Value → List Value
    | a :: as, b :: bs => elementwise f a b :: zipItems as bs
    | _, _ => []

def add : Value → Value → Value := elementwise (· + ·)

def sub : Value → Value → Value := elementwise (· - ·)

def dot (as bs : List Float) : Float :=
  (as.zip bs).foldl (fun acc (x, y) => acc + x * y) (-0.0)

mutual
/-- A value scaled by a number, elementwise through vectors; `onLeft` says the number is the
left factor. -/
def scale (a : Float) (onLeft : Bool) : Value → Value
  | number y => number (if onLeft then a * y else y * a)
  | vector items => vector (scaleList a onLeft items)
  | _ => undef

def scaleList (a : Float) (onLeft : Bool) : List Value → List Value
  | [] => []
  | x :: rest => scale a onLeft x :: scaleList a onLeft rest
end

/-- Products: numbers, a number scaling a vector on either side, and the dot product of two
numeric vectors of one length. -/
def mul : Value → Value → Value
  | number a, number b => number (a * b)
  | number a, vector items => vector (scaleList a true items)
  | vector items, number b => vector (scaleList b false items)
  | vector as, vector bs =>
    match (vector as).asNumbers?, (vector bs).asNumbers? with
    | some xs, some ys => if xs.length == ys.length then number (dot xs ys) else undef
    | _, _ => undef
  | _, _ => undef

mutual
def divideBy (b : Float) : Value → Value
  | number x => number (x / b)
  | vector items => vector (divideList b items)
  | _ => undef

def divideList (b : Float) : List Value → List Value
  | [] => []
  | x :: rest => divideBy b x :: divideList b rest
end

def div : Value → Value → Value
  | number a, number b => number (a / b)
  | vector items, number b => vector (divideList b items)
  | _, _ => undef

def rem : Value → Value → Value
  | number a, number b => number (Arith.remainder a b)
  | _, _ => undef

mutual
def neg : Value → Value
  | number x => number (-x)
  | vector items => vector (negList items)
  | _ => undef

def negList : List Value → List Value
  | [] => []
  | x :: rest => neg x :: negList rest
end

def compare? : Value → Value → Option Ordering
  | number a, number b =>
    if a < b then some .lt else if a == b then some .eq else if a > b then some .gt else none
  | str a, str b => some (Ord.compare a b)
  | bool a, bool b => some (Ord.compare a b)
  | _, _ => none

def equals : Value → Value → Bool
  | undef, undef => true
  | bool a, bool b => a == b
  | number a, number b => a == b
  | str a, str b => a == b
  | vector as, vector bs => listEquals as bs
  | _, _ => false
where
  listEquals : List Value → List Value → Bool
    | [], [] => true
    | a :: as, b :: bs => equals a b && listEquals as bs
    | _, _ => false

mutual
def text : Value → String
  | undef => "undef"
  | bool b => if b then "true" else "false"
  | number x => Decimal.plainOfFloat x
  | str s => Text.quote s
  | vector items => "[" ++ listText items ++ "]"

def listText : List Value → String
  | [] => ""
  | [v] => text v
  | v :: rest => text v ++ ", " ++ listText rest
end

end Value

end CsgPreview.Script
