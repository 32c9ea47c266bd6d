import CsgPreview.Decimal.Plain

/-!
Decimal text of binary floating-point numbers with a fixed number of digits after the point.
The exact value is rounded to that many digits, a tie going to the even last digit; the sign of a
negative value stays even when it rounds to zero.
-/

namespace CsgPreview.Decimal

def roundHalfEvenDiv (n d : Nat) : Nat :=
  let q := n / d
  let r := n % d
  if 2 * r > d then q + 1
  else if 2 * r < d then q
  else if q % 2 == 0 then q else q + 1

/-- A whole number of hundredths, thousandths, … written with the point `digits` places from
the right. -/
def withPoint (n digits : Nat) : String :=
  let s := toString n
  let s := String.ofList (List.replicate (digits + 1 - s.length) '0') ++ s
  if digits == 0 then s
  else String.ofList (s.toList.take (s.length - digits)) ++ "." ++
    String.ofList (s.toList.drop (s.length - digits))

def Unpacked.fixed (digits : Nat) : Unpacked → String
  | .nan => "NaN"
  | .infinite negative => if negative then "-inf" else "inf"
  | .zero negative => (if negative then "-" else "") ++ withPoint 0 digits
  | .finite negative v =>
    let scaled := v.significand * Nat.pow 10 digits
    let n := if v.exponent ≥ 0 then scaled * Nat.pow 2 v.exponent.toNat else scaled
    let d := if v.exponent ≥ 0 then 1 else Nat.pow 2 (-v.exponent).toNat
    (if negative then "-" else "") ++ withPoint (roundHalfEvenDiv n d) digits

def fixedOfFloat (x : Float) (digits : Nat) : String :=
  (BinaryFormat.double.unpack x.toBits.toNat).fixed digits

def fixedOfFloat32 (x : Float32) (digits : Nat) : String :=
  (BinaryFormat.single.unpack x.toBits.toNat).fixed digits

end CsgPreview.Decimal
