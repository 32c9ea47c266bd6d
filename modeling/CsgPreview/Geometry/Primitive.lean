import CsgPreview.Geometry.Matrix
import CsgPreview.Arith.Basic

/-!
Primitive shapes with every parameter resolved, the number of fragments of a round shape
included, so that the geometry of a primitive depends on nothing else and its text identifies it.
-/

namespace CsgPreview.Geometry

def gridFine : Float := 0.00000095

/-- The number of straight fragments a circle of radius `r` is drawn with: an explicit count
`fn` wins (at least 3); otherwise the count bounded by both the angle `fa` and the edge length
`fs` of a fragment, at least 5. -/
def fragments (r fn fs fa : Float) : UInt32 :=
  if r < gridFine then 3
  else if fn > 0 then Arith.maxU32 (Arith.floatToU32 fn) 3
  else
    let byAngle := 360 / Arith.fmax fa 0.01
    let bySize := r * 2 * Arith.pi / Arith.fmax fs 0.01
    Arith.floatToU32 (Arith.fmax (Arith.fmin byAngle bySize) 5).ceil

/-- A primitive shape. -/
inductive Primitive where
  | cube (size : Vec3) (center : Bool)
  | sphere (r : Float) (segments : UInt32)
  | cylinder (h r1 r2 : Float) (center : Bool) (segments : UInt32)
  | square (size : Vec2) (center : Bool)
  | circle (r : Float) (segments : UInt32)
  deriving Inhabited

namespace Primitive

def mkSphere (r : Float) (segments : UInt32) : Primitive := .sphere r (Arith.maxU32 segments 3)

def mkCylinder (h r1 r2 : Float) (center : Bool) (segments : UInt32) : Primitive :=
  .cylinder h r1 r2 center (Arith.maxU32 segments 3)

def mkCircle (r : Float) (segments : UInt32) : Primitive := .circle r (Arith.maxU32 segments 3)

def dimension : Primitive → Nat
  | .square .. | .circle .. => 2
  | _ => 3

def describe : Primitive → String
  | .cube s c => "cube(size = [" ++ Decimal.plainOfFloat s.x ++ ", " ++ Decimal.plainOfFloat s.y ++
      ", " ++ Decimal.plainOfFloat s.z ++ "], center = " ++ toString c ++ ")"
  | .sphere r n => "sphere($fn = " ++ toString n ++ ", r = " ++ Decimal.plainOfFloat r ++ ")"
  | .cylinder h r1 r2 c n => "cylinder($fn = " ++ toString n ++ ", h = " ++
      Decimal.plainOfFloat h ++ ", r1 = " ++ Decimal.plainOfFloat r1 ++ ", r2 = " ++
      Decimal.plainOfFloat r2 ++ ", center = " ++ toString c ++ ")"
  | .square s c => "square(size = [" ++ Decimal.plainOfFloat s.x ++ ", " ++
      Decimal.plainOfFloat s.y ++ "], center = " ++ toString c ++ ")"
  | .circle r n => "circle($fn = " ++ toString n ++ ", r = " ++ Decimal.plainOfFloat r ++ ")"

end Primitive

end CsgPreview.Geometry
