import CsgPreview.Scene.Node
import CsgPreview.Script.Scope
import CsgPreview.Log

/-!
The built-in modules: primitives (`cube`, `sphere`, `cylinder`, `square`, `circle`), boolean
operations and `group`, transforms (`translate`, `rotate`, `scale`, `mirror`, `multmatrix`) and
`color`. Each reads its arguments by name or position; an argument that is missing, `undef` or of
the wrong shape takes its default.

The fragment settings `$fn`, `$fs` and `$fa` of a round shape come from its own arguments first,
then from the scope.
-/

namespace CsgPreview.Script.Value

open CsgPreview.Geometry

def asVec3? (v : Value) (pad : Float) : Option Vec3 :=
  match v.asNumbers? with
  | some [x] => some ⟨x, pad, pad⟩
  | some [x, y] => some ⟨x, y, pad⟩
  | some [x, y, z] => some ⟨x, y, z⟩
  | _ => none

def asVec2? (v : Value) : Option Vec2 :=
  match v.asNumbers? with
  | some [x, y] | some [x, y, _] => some ⟨x, y⟩
  | _ => none

/-- A 4×4 matrix from three or four rows of three or four finite numbers; what is not given
stays as in the identity. -/
def asMatrix? (v : Value) : Option Mat4 :=
  match v with
  | .vector rows =>
    if rows.length < 3 || rows.length > 4 then none
    else do
      let rows ← rows.mapM fun row => do
        let ns ← row.asNumbers?
        if ns.length < 3 || ns.length > 4 then none else some ns
      pure (Mat4.ofFn fun i j =>
        match rows[i.val]? with
        | some row => row[j.val]?.getD (Mat4.identity.get i j)
        | none => Mat4.identity.get i j)
  | _ => none

end CsgPreview.Script.Value

namespace CsgPreview.Scene

open CsgPreview.Geometry Script

def fragmentSettings (args : Arguments) (scope : Scope) : Float × Float × Float :=
  let setting (name : String) (default : Float) : Float :=
    ((args.number? name none).orElse fun _ => (scope.lookup? name).bind Value.asNumber?).getD default
  (setting "$fn" 0, setting "$fs" 2, setting "$fa" 12)

def segments (r : Float) (args : Arguments) (scope : Scope) : UInt32 :=
  let (fn, fs, fa) := fragmentSettings args scope
  fragments r fn fs fa

def radius (args : Arguments) (rName dName : String) (position : Option Nat) : Option Float :=
  ((args.number? dName none).map (· / 2)).orElse fun _ => args.number? rName position

def cubeOf (args : Arguments) : Logged Primitive := do
  let size ← match args.get? "size" (some 0) with
    | some (.number n) => pure ⟨n, n, n⟩
    | some v =>
      match v.asVec3? 0 with
      | some s => pure s
      | none => do
        report .warn .builtins ("Unable to convert cube(size = " ++ v.text ++ ") to a vector")
        pure ⟨1, 1, 1⟩
    | none => pure ⟨1, 1, 1⟩
  pure (.cube size (args.flag "center" (some 1)))

def sphereOf (args : Arguments) (scope : Scope) : Primitive :=
  let r := (radius args "r" "d" (some 0)).getD 1
  Primitive.mkSphere r (segments r args scope)

def cylinderOf (args : Arguments) (scope : Scope) : Primitive :=
  let h := (args.number? "h" (some 0)).getD 1
  let r := (radius args "r" "d" none).getD 1
  let r1 := (radius args "r1" "d1" (some 1)).getD r
  let r2 := (radius args "r2" "d2" (some 2)).getD r
  Primitive.mkCylinder h r1 r2 (args.flag "center" (some 3))
    (segments (Arith.fmax r1 r2) args scope)

def squareOf (args : Arguments) : Primitive :=
  let size : Vec2 := match args.get? "size" (some 0) with
    | some (.number n) => ⟨n, n⟩
    | some v => (v.asVec2?).getD ⟨1, 1⟩
    | none => ⟨1, 1⟩
  .square size (args.flag "center" (some 1))

def circleOf (args : Arguments) (scope : Scope) : Primitive :=
  let r := (radius args "r" "d" (some 0)).getD 1
  Primitive.mkCircle r (segments r args scope)

def translateOf (args : Arguments) : Mat4 :=
  Mat4.translation (((args.get? "v" (some 0)).bind (·.asVec3? 0)).getD Vec3.zero)

def axis : Nat → Vec3
  | 0 => ⟨1, 0, 0⟩
  | 1 => ⟨0, 1, 0⟩
  | _ => ⟨0, 0, 1⟩

/-- `rotate([x, y, z])` turns about x, then y, then z (degrees); `rotate(a, v)` turns by `a`
about the axis `v`, the z axis when `v` is missing or zero. -/
def rotateOf (args : Arguments) : Mat4 :=
  match args.get? "a" (some 0) with
  | some (.vector items) =>
    let angles := ((Value.vector items).asVec3? 0).getD Vec3.zero
    let rx := Mat3.axisAngle (axis 0) (Arith.toRadians angles.x)
    let ry := Mat3.axisAngle (axis 1) (Arith.toRadians angles.y)
    let rz := Mat3.axisAngle (axis 2) (Arith.toRadians angles.z)
    Mat4.ofLinear ((rz.mul ry).mul rx)
  | some (.number a) =>
    let about := match (args.get? "v" (some 1)).bind (·.asVec3? 0) with
      | some v => if v.norm > 0 then v.normalize else axis 2
      | none => axis 2
    Mat4.ofLinear (Mat3.axisAngle about (Arith.toRadians a))
  | _ => Mat4.identity

def scaleOf (args : Arguments) : Mat4 :=
  Mat4.scaling <| match args.get? "v" (some 0) with
    | some (.number n) => ⟨n, n, n⟩
    | some v => (v.asVec3? 1).getD ⟨1, 1, 1⟩
    | none => ⟨1, 1, 1⟩

def mirrorOf (args : Arguments) : Mat4 :=
  match (args.get? "v" (some 0)).bind (·.asVec3? 0) with
  | some v => if v.norm > 0 then Mat4.ofLinear (Mat3.reflection v.normalize) else Mat4.identity
  | none => Mat4.identity

def multmatrixOf (args : Arguments) : Mat4 :=
  ((args.get? "m" (some 0)).bind Value.asMatrix?).getD Mat4.identity

/-- `color(c, alpha)`: a name, hexadecimal notation, or three or four numbers; `alpha`
replaces the alpha. -/
def colorOf (args : Arguments) : Logged Rgba := do
  let alpha := args.number? "alpha" (some 1)
  let base : Option Rgba := match args.get? "c" (some 0) with
    | some (.str name) => (Rgba.named? name).orElse fun _ => Rgba.ofHex? name
    | some v =>
      match v.asNumbers? with
      | some [r, g, b] => some ⟨r.toFloat32, g.toFloat32, b.toFloat32, 1⟩
      | some [r, g, b, a] => some ⟨r.toFloat32, g.toFloat32, b.toFloat32, a.toFloat32⟩
      | _ => none
    | none => none
  let base ← match base with
    | some c => pure c
    | none => do
      report .warn .builtins "Unable to parse color, using default"
      pure Rgba.fallback
  pure (match alpha with
    | some a => base.withAlpha a.toFloat32
    | none => base)

def builtinKind (name : String) (args : Arguments) (scope : Scope) : Logged (Option NodeKind) :=
  match name with
  | "cube" => do return some (.primitive (← cubeOf args))
  | "sphere" => pure (some (.primitive (sphereOf args scope)))
  | "cylinder" => pure (some (.primitive (cylinderOf args scope)))
  | "square" => pure (some (.primitive (squareOf args)))
  | "circle" => pure (some (.primitive (circleOf args scope)))
  | "union" => pure (some .union)
  | "difference" => pure (some .difference)
  | "intersection" => pure (some .intersection)
  | "group" => pure (some .group)
  | "translate" => pure (some (.transform (translateOf args)))
  | "rotate" => pure (some (.transform (rotateOf args)))
  | "scale" => pure (some (.transform (scaleOf args)))
  | "mirror" => pure (some (.transform (mirrorOf args)))
  | "multmatrix" => pure (some (.transform (multmatrixOf args)))
  | "color" => do return some (.color (← colorOf args))
  | _ => pure none

end CsgPreview.Scene
