/-!
Shortest decimal digits of a binary floating-point value.

A positive finite value is `significand * 2 ^ exponent`. The reals that round to it form an
interval around it: half a gap to each neighbour, where the gap below is only half as wide when
the significand is the smallest normal one. The interval is closed when the significand is even
(ties go to even). The shortest digits are found on the coarsest decimal grid `10 ^ t` that has
a point in the interval; of the value's two neighbours on that grid the one inside wins, the
nearer of two, and an exact tie goes up.
-/

namespace CsgPreview.Decimal

/-- A positive finite binary value `significand * 2 ^ exponent`. `narrowBelow` says the next
representable value below is only half a gap away (the significand is a power of two at the
bottom of the normal range). -/
structure BinaryValue where
  significand : Nat
  exponent : Int
  narrowBelow : Bool
  deriving Repr, DecidableEq

/-- Decimal digits `digits * 10 ^ scale`. -/
structure Digits where
  digits : Nat
  scale : Int
  deriving Repr, DecidableEq

namespace BinaryValue

/-- The value and its interval ends in one exact frame: the value is `center / denominator`,
the interval reaches `below / denominator` downwards and `above / denominator` upwards. -/
structure Frame where
  center : Nat
  below : Nat
  above : Nat
  denominator : Nat
  /-- the interval includes its ends -/
  closed : Bool

def frame (v : BinaryValue) : Frame :=
  let (mant, minus, plus, exp) :=
    if v.narrowBelow then (4 * v.significand, 1, 2, v.exponent - 2)
    else (2 * v.significand, 1, 1, v.exponent - 1)
  let unit := Nat.pow 2 exp.toNat
  let den := Nat.pow 2 (-exp).toNat
  { center := mant * unit, below := minus * unit, above := plus * unit, denominator := den,
    closed := v.significand % 2 == 0 }

def lowestScale (e : Int) : Int := Int.fdiv (e * 30103) 100000 - 1

def highestScale (f : Frame) : Int :=
  let bits : Int := (Nat.log2 (f.center + f.above) + 1 : Nat)
  let denBits : Int := (Nat.log2 f.denominator : Nat)
  Int.fdiv ((bits - denBits) * 30103) 100000 + 2

end BinaryValue

namespace BinaryValue.Frame

/-- The candidates on grid `10 ^ t`: the value is `quotient + remainder / divisor` grid steps,
and the interval reaches `down` steps below and `up` above (in `divisor` units). -/
structure Grid where
  quotient : Nat
  remainder : Nat
  divisor : Nat
  down : Nat
  up : Nat

def grid (f : Frame) (t : Int) : Grid :=
  let lift := Nat.pow 10 (-t).toNat
  let divisor := f.denominator * Nat.pow 10 t.toNat
  let a := f.center * lift
  { quotient := a / divisor, remainder := a % divisor, divisor := divisor,
    down := f.below * lift, up := f.above * lift }

def within (closed : Bool) (x bound : Nat) : Bool :=
  if closed then x ≤ bound else x < bound

def pick? (f : Frame) (t : Int) : Option Digits :=
  let g := f.grid t
  let lowIn := within f.closed g.remainder g.down
  let highIn := within f.closed (g.divisor - g.remainder) g.up
  if lowIn && highIn then
    if 2 * g.remainder < g.divisor then some ⟨g.quotient, t⟩ else some ⟨g.quotient + 1, t⟩
  else if lowIn then some ⟨g.quotient, t⟩
  else if highIn then some ⟨g.quotient + 1, t⟩
  else none

end BinaryValue.Frame

/-- The shortest digits that read back as the value, nearest among those, a tie going up.
Grids are tried from above the value downwards; the grid at `lowestScale` always has its lower
neighbour inside, so the search ends there at the latest. -/
def BinaryValue.shortest (v : BinaryValue) : Digits :=
  let f := v.frame
  let top := highestScale f
  let bottom := lowestScale (v.exponent - 2)
  let count := (top - bottom).toNat + 1
  let scales := (List.range count).map fun (i : Nat) => top - (i : Int)
  match scales.findSome? f.pick? with
  | some d => d
  | none => ⟨(f.grid bottom).quotient, bottom⟩

def Digits.text (d : Digits) : String := toString d.digits

def Digits.pointPosition (d : Digits) : Int := d.scale + d.text.length

/-- Positional notation without an exponent: leading `0.` and zeros for small values,
trailing zeros for large ones. -/
def Digits.positional (d : Digits) : String :=
  let s := d.text
  let k := d.pointPosition
  if k ≤ 0 then "0." ++ String.ofList (List.replicate (-k).toNat '0') ++ s
  else if k.toNat < s.length then String.ofList (s.toList.take k.toNat) ++ "." ++
    String.ofList (s.toList.drop k.toNat)
  else s ++ String.ofList (List.replicate (k.toNat - s.length) '0')

end CsgPreview.Decimal
