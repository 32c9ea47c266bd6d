import CsgPreview.Geometry.Primitive
import CsgPreview.Geometry.Mesh
import CsgPreview.Geometry.Outline

/-!
Drawing primitives: solids become meshes, plane shapes become outlines; a shape with a
non-positive size gives nothing.

A cube has four vertices per face so that its normals stay flat. A sphere is made of rings at
half-step latitudes (so no ring shrinks to a pole), joined by quads and closed by a fan on the
first and last ring. A cylinder has a center vertex on each cap, fans for the caps and two
triangles per side step; a cone skips the triangles of its pointed end, and its normals are
smoothed afterwards.
-/

namespace CsgPreview.Geometry

open Arith

def circlePoints (r : Float) (segments : Nat) : Array Vec2 :=
  Array.ofFn fun (i : Fin segments) =>
    let phi := 2 * pi * i.val.toFloat / segments.toFloat
    ⟨r * phi.cos, r * phi.sin⟩

def cubeFaces : List (List (Bool × Bool × Bool) × Vec3) := [
  ([(false, false, true), (true, false, true), (true, true, true), (false, true, true)], ⟨0, 0, 1⟩),
  ([(true, false, false), (false, false, false), (false, true, false), (true, true, false)],
    ⟨-0, -0, -1⟩),
  ([(true, false, true), (true, false, false), (true, true, false), (true, true, true)], ⟨1, 0, 0⟩),
  ([(false, false, false), (false, false, true), (false, true, true), (false, true, false)],
    ⟨-1, -0, -0⟩),
  ([(false, true, true), (true, true, true), (true, true, false), (false, true, false)], ⟨0, 1, 0⟩),
  ([(false, false, false), (true, false, false), (true, false, true), (false, false, true)],
    ⟨-0, -1, -0⟩)]

def cubeMesh (size : Vec3) (center : Bool) : Mesh :=
  if size.x <= 0 || size.y <= 0 || size.z <= 0 then {}
  else
    let lo : Vec3 := if center then (size.neg).divBy 2 else Vec3.zero
    let hi := lo.add size
    let corner (c : Bool × Bool × Bool) : Vec3 :=
      ⟨if c.1 then hi.x else lo.x, if c.2.1 then hi.y else lo.y, if c.2.2 then hi.z else lo.z⟩
    cubeFaces.foldl (fun (m : Mesh) (quad, normal) =>
      let base := m.vertices.size
      ⟨m.vertices ++ (quad.map fun c => (⟨corner c, normal⟩ : Vertex)).toArray,
       m.triangles ++ #[⟨base, base + 1, base + 2⟩, ⟨base, base + 2, base + 3⟩]⟩) {}

/-- How many rings a sphere of `segments` segments has: half the segments, rounded up (the sum
taken in 32-bit words), and at least one. -/
def sphereRings (segments : UInt32) : Nat := max ((segments + 1) / 2).toNat 1

def sphereMesh (r : Float) (segments : UInt32) : Mesh :=
  if r <= 0 then {}
  else
    let rings := sphereRings segments
    let slices := segments.toNat
    let vertices := (List.range rings).toArray.flatMap fun ring =>
      let phi := pi * (ring.toFloat + 0.5) / rings.toFloat
      let ringR := r * phi.sin
      let z := r * phi.cos
      (circlePoints ringR slices).map fun p =>
        let position : Vec3 := ⟨p.x, p.y, z⟩
        (⟨position, position.divBy r⟩ : Vertex)
    let indexAt (ring slice : Nat) : Nat := ring * slices + slice % slices
    let sides := (List.range (rings - 1)).toArray.flatMap fun ring =>
      (List.range slices).toArray.flatMap fun slice =>
        let a := indexAt ring slice
        let b := indexAt ring (slice + 1)
        let c := indexAt (ring + 1) (slice + 1)
        let d := indexAt (ring + 1) slice
        #[(⟨a, d, c⟩ : Triangle), ⟨a, c, b⟩]
    let last := rings - 1
    let caps := ((List.range (slices - 1)).drop 1).toArray.flatMap fun slice =>
      #[(⟨indexAt 0 0, indexAt 0 slice, indexAt 0 (slice + 1)⟩ : Triangle),
        ⟨indexAt last 0, indexAt last (slice + 1), indexAt last slice⟩]
    ⟨vertices, sides ++ caps⟩

def cylinderMesh (h r1 r2 : Float) (center : Bool) (segments : UInt32) : Mesh :=
  if h <= 0 || (r1 <= 0 && r2 <= 0) then {}
  else
    let (z1, z2) := if center then (-h / 2, h / 2) else (0, h)
    let down : Vec3 := ⟨-0, -0, -1⟩
    let up : Vec3 := ⟨0, 0, 1⟩
    let n := segments.toNat
    let bottom := (circlePoints r1 n).map fun p => (⟨⟨p.x, p.y, z1⟩, down⟩ : Vertex)
    let top := (circlePoints r2 n).map fun p => (⟨⟨p.x, p.y, z2⟩, up⟩ : Vertex)
    let vertices := #[(⟨⟨0, 0, z1⟩, down⟩ : Vertex), ⟨⟨0, 0, z2⟩, up⟩] ++ bottom ++ top
    let b (i : Nat) : Nat := 2 + i
    let t (i : Nat) : Nat := 2 + n + i
    let triangles := (List.range n).toArray.flatMap fun i =>
      let next := (i + 1) % n
      (if r1 > 0 then #[(⟨0, b next, b i⟩ : Triangle)] else #[]) ++
      (if r2 > 0 then #[(⟨1, t i, t next⟩ : Triangle)] else #[]) ++
      (if r1 > 0 then #[(⟨b i, b next, t i⟩ : Triangle)] else #[]) ++
      (if r2 > 0 then #[(⟨t i, b next, t next⟩ : Triangle)] else #[])
    Mesh.recomputeNormals ⟨vertices, triangles⟩

namespace Primitive

def toMesh : Primitive → Mesh
  | .cube size center => cubeMesh size center
  | .sphere r n => sphereMesh r n
  | .cylinder h r1 r2 center n => cylinderMesh h r1 r2 center n
  | _ => {}

def toOutline : Primitive → Outline
  | .square size center =>
    if size.x > 0 && size.y > 0 then
      let (x0, y0) := if center then (-size.x / 2, -size.y / 2) else (0, 0)
      Outline.addContour {} #[⟨x0, y0⟩, ⟨x0 + size.x, y0⟩, ⟨x0 + size.x, y0 + size.y⟩,
        ⟨x0, y0 + size.y⟩]
    else {}
  | .circle r n => if r > 0 then Outline.addContour {} (circlePoints r n.toNat) else {}
  | _ => {}

end Primitive

end CsgPreview.Geometry
