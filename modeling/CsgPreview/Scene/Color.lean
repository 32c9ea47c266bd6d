import CsgPreview.Decimal.Plain

/-!
Colors as four single-precision components (red, green, blue, alpha), normally in `0..1`:
from hexadecimal notation (`#rgb`, `#rgba`, `#rrggbb`, `#rrggbbaa`) or from one of a fixed set
of color names, matched without regard to ASCII case.
-/

namespace CsgPreview.Scene

/-- A color with single-precision components. -/
structure Rgba where
  r : Float32
  g : Float32
  b : Float32
  a : Float32
  deriving Inhabited

namespace Rgba

def ofBytes (r g b a : UInt8) : Rgba :=
  ⟨r.toFloat32 / 255, g.toFloat32 / 255, b.toFloat32 / 255, a.toFloat32 / 255⟩

def withAlpha (c : Rgba) (a : Float32) : Rgba := { c with a }

def fallback : Rgba := ⟨-1, -1, -1, 1⟩

def text (c : Rgba) : String :=
  "[" ++ ", ".intercalate ([c.r, c.g, c.b, c.a].map Decimal.plainOfFloat32) ++ "]"

def components (c : Rgba) : List Float32 := [c.r, c.g, c.b, c.a]

def hexDigit? (b : UInt8) : Option Nat :=
  if 48 ≤ b && b ≤ 57 then some (b.toNat - 48)
  else if 97 ≤ b && b ≤ 102 then some (b.toNat - 87)
  else if 65 ≤ b && b ≤ 70 then some (b.toNat - 55)
  else none

/-- A byte written in hexadecimal by the bytes `bs`, which may start with a `+` when more
follows; none when they are not such a number or it exceeds 255. -/
def hexByteValue? (bs : List UInt8) : Option Nat :=
  let digits := match bs with
    | 43 :: rest@(_ :: _) => rest
    | _ => bs
  if digits.isEmpty then none
  else
    (digits.foldlM (fun acc b => (hexDigit? b).map (acc * 16 + ·)) 0).bind fun v =>
      if v < 256 then some v else none

/-- A color in hexadecimal notation after `#`: three or four single digits (each doubled), or
three or four digit pairs; a missing alpha is opaque. -/
def ofHex? (hex : String) : Option Rgba :=
  match hex.toUTF8.toList with
  | 35 :: digits =>
    let part (i k : Nat) : Option UInt8 :=
      if i + k ≤ digits.length then
        (hexByteValue? ((digits.drop i).take k)).map Nat.toUInt8
      else none
    match digits.length with
    | 3 => do
      let r ← part 0 1; let g ← part 1 1; let b ← part 2 1
      pure (ofBytes (r * 17) (g * 17) (b * 17) 255)
    | 4 => do
      let r ← part 0 1; let g ← part 1 1; let b ← part 2 1; let a ← part 3 1
      pure (ofBytes (r * 17) (g * 17) (b * 17) (a * 17))
    | 6 => do
      let r ← part 0 2; let g ← part 2 2; let b ← part 4 2
      pure (ofBytes r g b 255)
    | 8 => do
      let r ← part 0 2; let g ← part 2 2; let b ← part 4 2; let a ← part 6 2
      pure (ofBytes r g b a)
    | _ => none
  | _ => none

def names : List (String × UInt8 × UInt8 × UInt8) := [
  ("black", 0, 0, 0), ("white", 255, 255, 255), ("red", 255, 0, 0), ("green", 0, 128, 0),
  ("lime", 0, 255, 0), ("blue", 0, 0, 255), ("yellow", 255, 255, 0), ("cyan", 0, 255, 255),
  ("magenta", 255, 0, 255), ("orange", 255, 165, 0), ("purple", 128, 0, 128),
  ("pink", 255, 192, 203), ("brown", 165, 42, 42), ("gray", 128, 128, 128),
  ("grey", 128, 128, 128), ("silver", 192, 192, 192), ("gold", 255, 215, 0), ("navy", 0, 0, 128),
  ("teal", 0, 128, 128), ("olive", 128, 128, 0), ("maroon", 128, 0, 0),
  ("steelblue", 70, 130, 180), ("tomato", 255, 99, 71), ("violet", 238, 130, 238)]

def named? (name : String) : Option Rgba :=
  let lower := String.ofList (name.toList.map fun c => if c.isUpper then c.toLower else c)
  (names.find? (·.1 == lower)).map fun (_, r, g, b) => ofBytes r g b 255

end Rgba

end CsgPreview.Scene
