import CsgPreview.Geometry.Mesh
import CsgPreview.Geometry.Outline

/-!
Computed geometry: a mesh for the preview, an outline in the plane, or a solid from the exact
render, which is a mesh together with the number of separate volumes it holds.
-/

namespace CsgPreview.Geometry

/-- A solid of the exact render: its surface and how many separate volumes it holds. -/
structure Solid where
  polyhedron : Mesh
  volumes : Nat
  deriving Inhabited

def Solid.ofMesh (m : Mesh) : Solid := ⟨m, if m.isEmpty then 0 else 1⟩

/-- Computed geometry. -/
inductive Shape where
  | mesh (m : Mesh)
  | outline (o : Outline)
  | solid (s : Solid)
  deriving Inhabited

def padCount (n : Nat) : String :=
  let s := toString n
  String.ofList (List.replicate (6 - s.length) ' ') ++ s

namespace Shape

def dimension : Shape → Nat
  | .outline _ => 2
  | _ => 3

def kindName : Shape → String
  | .mesh _ => "mesh"
  | .outline _ => "outline"
  | .solid _ => "solid"

def triangles? : Shape → Option Mesh
  | .mesh m => some m
  | .solid s => some s.polyhedron
  | .outline _ => none

def isEmpty : Shape → Bool
  | .mesh m => m.isEmpty
  | .outline o => o.isEmpty
  | .solid s => s.polyhedron.isEmpty

def box : Shape → Box
  | .mesh m => m.box
  | .outline o => o.box
  | .solid s => s.polyhedron.box

def transformed (g : Shape) (matrix : Mat4) : Shape :=
  match g with
  | .mesh m => .mesh (m.transformed matrix)
  | .outline o => .outline (o.transformed matrix)
  | .solid s => .solid ⟨s.polyhedron.transformed matrix, s.volumes⟩

def memorySize : Shape → Nat
  | .mesh m => m.memorySize
  | .outline o => o.memorySize
  | .solid s => s.polyhedron.memorySize

def summary : Shape → List String
  | .mesh m => ["Top level object is a 3D object:", "   Facets:     " ++ padCount m.triangleCount]
  | .solid s => ["Top level object is a 3D object:",
      "   Vertices:   " ++ padCount s.polyhedron.vertexCount,
      "   Facets:     " ++ padCount s.polyhedron.triangleCount,
      "   Volumes:    " ++ padCount s.volumes]
  | .outline o => ["Top level object is a 2D object:", "   Contours:   " ++ padCount o.contourCount]

end Shape

end CsgPreview.Geometry
