import CsgPreview.Decimal.Plain
import CsgPreview.Decimal.Read

/-!
The remainder of a truncated division of doubles, computed exactly: `a - n * b` with `n` the
quotient rounded toward zero. The result has the sign of `a` and is always representable, so it is
found by integer arithmetic on the two significands brought to a common exponent. A zero divisor,
an infinite dividend or a NaN gives NaN; an infinite divisor gives `a`.
-/

namespace CsgPreview.Arith

open CsgPreview.Decimal

def nan : Float := doubleOfFields false 2047 (Nat.pow 2 51)

def exactDouble (negative : Bool) (value : Nat) (exponent : Int) : Float :=
  if value == 0 then doubleOfFields negative 0 0
  else nearestDouble negative (value * Nat.pow 2 exponent.toNat) (Nat.pow 2 (-exponent).toNat)

def remainder (a b : Float) : Float :=
  match BinaryFormat.double.unpack a.toBits.toNat, BinaryFormat.double.unpack b.toBits.toNat with
  | .nan, _ => nan
  | _, .nan => nan
  | .infinite _, _ => nan
  | _, .zero _ => nan
  | .zero _, _ => a
  | .finite _ _, .infinite _ => a
  | .finite negative va, .finite _ vb =>
    let e := min va.exponent vb.exponent
    let x := va.significand * Nat.pow 2 (va.exponent - e).toNat
    let y := vb.significand * Nat.pow 2 (vb.exponent - e).toNat
    exactDouble negative (x % y) e

end CsgPreview.Arith
