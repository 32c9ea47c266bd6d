/-!
Elementary operations on doubles used throughout: `π`, degree and radian conversion, the
larger and smaller of two numbers ignoring NaN, and saturating conversions to machine integers.
-/

namespace CsgPreview.Arith

def pi : Float := Float.ofBits 0x400921FB54442D18

def inf : Float := 1 / 0

def toRadians (x : Float) : Float := x * (pi / 180.0)

def toDegrees (x : Float) : Float := x * (180.0 / pi)

/-- The larger of two numbers; a NaN loses to any number, and of two equal ones (zeros of
either sign) the second wins, as with the script's `max`. -/
def fmax (a b : Float) : Float :=
  if a.isNaN then b else if b.isNaN then a else if a > b then a else b

/-- The smaller of two numbers; a NaN loses to any number, and of two equal ones (zeros of
either sign) the second wins, as with the script's `min`. -/
def fmin (a b : Float) : Float :=
  if a.isNaN then b else if b.isNaN then a else if a < b then a else b

/-- A double as a 32-bit count: truncated toward zero, NaN and negatives to 0, large values
to the largest count. -/
def floatToU32 (x : Float) : UInt32 := x.toUInt32

def floatToU64 (x : Float) : UInt64 := x.toUInt64

def maxU32 (a b : UInt32) : UInt32 := if a < b then b else a

end CsgPreview.Arith
