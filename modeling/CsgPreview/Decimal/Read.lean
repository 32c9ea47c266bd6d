/-!
Reading decimal text into doubles, rounded correctly: the exact value `mantissa * 10 ^ exponent`
goes to the nearest double, a tie to the even significand; values past the largest double become
infinity and values below half the smallest subnormal become zero.

The accepted text is an optional sign followed by `inf`, `infinity` or `nan` in any case, or by
digits with an optional point (at least one digit on one side of it) and an optional exponent
`e`/`E` with an optional sign and at least one digit.
-/

namespace CsgPreview.Decimal

def doubleOfFields (negative : Bool) (biased fraction : Nat) : Float :=
  Float.ofBits (UInt64.ofNat ((if negative then Nat.pow 2 63 else 0) + biased * Nat.pow 2 52 + fraction))

def roundHalfEven (num den : Nat) : Nat :=
  let q := num / den
  let r := num % den
  if 2 * r < den then q
  else if 2 * r > den then q + 1
  else if q % 2 == 0 then q else q + 1

def scaledRound (num den : Nat) (shift : Int) : Nat :=
  if shift ≥ 0 then roundHalfEven num (den * Nat.pow 2 shift.toNat)
  else roundHalfEven (num * Nat.pow 2 (-shift).toNat) den

def atLeastPowerOfTwo (num den : Nat) (k : Int) : Bool :=
  if k ≥ 0 then num ≥ den * Nat.pow 2 k.toNat else num * Nat.pow 2 (-k).toNat ≥ den

/-- The double nearest to the positive rational `num / den` (with `num > 0`). The shift puts
the scaled quotient in `[2 ^ 52, 2 ^ 53)`, or at the smallest exponent for subnormals. -/
def nearestDouble (negative : Bool) (num den : Nat) : Float :=
  let top : Int := (Nat.log2 num : Int) - (Nat.log2 den : Int)
  let shift : Int := if atLeastPowerOfTwo num den top then top - 52 else top - 53
  let shift := max shift (-1074)
  let mant := scaledRound num den shift
  let (mant, shift) := if mant == Nat.pow 2 53 then (Nat.pow 2 52, shift + 1) else (mant, shift)
  if shift + 52 > 1023 then doubleOfFields negative 2047 0
  else if mant < Nat.pow 2 52 then doubleOfFields negative 0 mant
  else doubleOfFields negative (shift + 1075).toNat (mant - Nat.pow 2 52)

def doubleOfDecimal (negative : Bool) (mantissa : Nat) (exponent : Int) : Float :=
  let size : Int := (toString mantissa).length
  if mantissa == 0 then doubleOfFields negative 0 0
  else if exponent + size > 310 then doubleOfFields negative 2047 0
  else if exponent + size < -330 then doubleOfFields negative 0 0
  else if exponent ≥ 0 then nearestDouble negative (mantissa * Nat.pow 10 exponent.toNat) 1
  else nearestDouble negative mantissa (Nat.pow 10 (-exponent).toNat)

def digitsValue (ds : List Char) : Nat :=
  ds.foldl (fun acc c => acc * 10 + (c.toNat - '0'.toNat)) 0

def splitSign : List Char → Bool × List Char
  | '-' :: rest => (true, rest)
  | '+' :: rest => (false, rest)
  | cs => (false, cs)

def readExponent? (cs : List Char) : Option Int :=
  let (negative, ds) := splitSign cs
  if ds.isEmpty || !ds.all Char.isDigit then none
  else
    let v : Int := digitsValue ds
    some (if negative then -v else v)

/-- Digits, an optional point and digits, at least one digit in all; then an optional
exponent. Gives the mantissa and the power of ten. -/
def readUnsigned? (cs : List Char) : Option (Nat × Int) :=
  let whole := cs.takeWhile Char.isDigit
  let rest := cs.dropWhile Char.isDigit
  let (frac, rest) :=
    match rest with
    | '.' :: more => (more.takeWhile Char.isDigit, more.dropWhile Char.isDigit)
    | _ => ([], rest)
  if whole.isEmpty && frac.isEmpty then none
  else
    let exp? : Option Int :=
      match rest with
      | [] => some 0
      | c :: more => if c == 'e' || c == 'E' then readExponent? more else none
    exp?.map fun e => (digitsValue (whole ++ frac), e - (frac.length : Int))

def readFloat? (s : String) : Option Float :=
  let (negative, body) := splitSign s.toList
  let word := String.ofList (body.map Char.toLower)
  if word == "inf" || word == "infinity" then
    some (doubleOfFields negative 2047 0)
  else if word == "nan" then
    some (doubleOfFields false 2047 (Nat.pow 2 51))
  else
    (readUnsigned? body).map fun (m, e) => doubleOfDecimal negative m e

end CsgPreview.Decimal
