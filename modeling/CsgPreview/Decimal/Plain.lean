import CsgPreview.Decimal.Shortest

/-!
Plain decimal text of binary floating-point numbers: the shortest digits that read back, written
positionally (never with an exponent), `-` before negative values including negative zero,
`NaN`, `inf` and `-inf` for the special values. Double and single precision share the rule and
differ only in the width of their fields.
-/

namespace CsgPreview.Decimal

/-- What a bit pattern stands for. -/
inductive Unpacked where
  | nan
  | infinite (negative : Bool)
  | zero (negative : Bool)
  | finite (negative : Bool) (value : BinaryValue)
  deriving Repr, DecidableEq

/-- An IEEE 754 binary format: bits of the fraction field and of the exponent field. -/
structure BinaryFormat where
  fractionBits : Nat
  exponentBits : Nat

def BinaryFormat.double : BinaryFormat := ⟨52, 11⟩

def BinaryFormat.single : BinaryFormat := ⟨23, 8⟩

def BinaryFormat.unpack (fmt : BinaryFormat) (bits : Nat) : Unpacked :=
  let fracSize := Nat.pow 2 fmt.fractionBits
  let fraction := bits % fracSize
  let maxBiased := Nat.pow 2 fmt.exponentBits - 1
  let biased := (bits / fracSize) % (Nat.pow 2 fmt.exponentBits)
  let negative := bits / (fracSize * Nat.pow 2 fmt.exponentBits) % 2 == 1
  let bias : Int := (Nat.pow 2 (fmt.exponentBits - 1) - 1 : Nat)
  if biased == maxBiased then
    if fraction == 0 then .infinite negative else .nan
  else if biased == 0 then
    if fraction == 0 then .zero negative
    else .finite negative ⟨fraction, 1 - bias - fmt.fractionBits, false⟩
  else
    .finite negative
      ⟨fraction + fracSize, (biased : Int) - bias - fmt.fractionBits, fraction == 0⟩

def Unpacked.plain : Unpacked → String
  | .nan => "NaN"
  | .infinite negative => if negative then "-inf" else "inf"
  | .zero negative => if negative then "-0" else "0"
  | .finite negative v => (if negative then "-" else "") ++ v.shortest.positional

def plainOfFloat (x : Float) : String :=
  (BinaryFormat.double.unpack x.toBits.toNat).plain

def plainOfFloat32 (x : Float32) : String :=
  (BinaryFormat.single.unpack x.toBits.toNat).plain

end CsgPreview.Decimal
