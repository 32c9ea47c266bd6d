import CsgPreview.Geometry.Box

/-!
Triangle meshes for drawing: vertices with a position and a normal, and triangles as three
vertex indices, counter-clockwise seen from outside.

Moving a mesh by a transform moves the positions; normals go through the inverse transpose (the
matrix itself when it has no inverse) and are made unit length again when they are long enough.
A transform that mirrors (negative determinant) turns every triangle around.
-/

namespace CsgPreview.Geometry

/-- A mesh vertex. -/
structure Vertex where
  position : Vec3
  normal : Vec3
  deriving Inhabited

/-- Three vertex indices. -/
structure Triangle where
  a : Nat
  b : Nat
  c : Nat
  deriving Inhabited, DecidableEq

/-- A triangle mesh. -/
structure Mesh where
  vertices : Array Vertex := #[]
  triangles : Array Triangle := #[]
  deriving Inhabited

def leastNormal : Float := 1e-12

namespace Mesh

def isEmpty (m : Mesh) : Bool := m.triangles.isEmpty

def vertexCount (m : Mesh) : Nat := m.vertices.size

def triangleCount (m : Mesh) : Nat := m.triangles.size

def transformed (m : Mesh) (matrix : Mat4) : Mesh :=
  let normals := (matrix.inverse?.map Mat4.transpose).getD matrix
  let vertices := m.vertices.map fun v =>
    let n := normals.transformVector v.normal
    ⟨matrix.transformPoint v.position, (n.tryNormalize leastNormal).getD n⟩
  let triangles :=
    if matrix.det3 < 0 then m.triangles.map fun t => ⟨t.a, t.c, t.b⟩ else m.triangles
  ⟨vertices, triangles⟩

def box (m : Mesh) : Box := Box.ofPoints (m.vertices.toList.map (·.position))

def append (m other : Mesh) : Mesh :=
  let base := m.vertices.size
  ⟨m.vertices ++ other.vertices,
   m.triangles ++ other.triangles.map fun t => ⟨t.a + base, t.b + base, t.c + base⟩⟩

/-- Smooth normals: each vertex takes the unit-length sum of the face normals around it (a
larger face weighs more); a vertex whose sum is too short keeps its normal. -/
def recomputeNormals (m : Mesh) : Mesh :=
  let pos (i : Nat) : Vec3 := (m.vertices[i]?.map (·.position)).getD Vec3.zero
  let sums := m.triangles.foldl (fun (sums : Array Vec3) t =>
    let a := pos t.a
    let face := ((pos t.b).sub a).cross ((pos t.c).sub a)
    let bump (s : Array Vec3) (i : Nat) : Array Vec3 := s.modify i (·.add face)
    bump (bump (bump sums t.a) t.b) t.c) (Array.replicate m.vertices.size Vec3.zero)
  { m with vertices := m.vertices.mapIdx fun i v =>
      match (sums[i]?.getD Vec3.zero).tryNormalize leastNormal with
      | some n => { v with normal := n }
      | none => v }

def memorySize (m : Mesh) : Nat := 48 + 48 * m.vertices.size + 24 * m.triangles.size

end Mesh

end CsgPreview.Geometry
