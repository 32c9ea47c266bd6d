import CsgPreview.Geometry.Tessellate
import CsgPreview.Geometry.Shape

/-!
The tessellations of primitives, kept by the primitive's description so that each is computed
once. Both kernels read primitives through it: the preview kernel as meshes and outlines, the
exact kernel as solids and outlines.
-/

namespace CsgPreview.Cache

open CsgPreview.Geometry

/-- Meshes and outlines of the primitives met so far, keyed by description. -/
structure Tessellations where
  meshes : List (String × Mesh) := []
  outlines : List (String × Outline) := []
  deriving Inhabited

namespace Tessellations

def mesh (t : Tessellations) (p : Primitive) : Tessellations × Mesh :=
  let key := p.describe
  match t.meshes.find? (·.1 == key) with
  | some (_, m) => (t, m)
  | none => let m := p.toMesh; ({ t with meshes := t.meshes ++ [(key, m)] }, m)

def outline (t : Tessellations) (p : Primitive) : Tessellations × Outline :=
  let key := p.describe
  match t.outlines.find? (·.1 == key) with
  | some (_, o) => (t, o)
  | none => let o := p.toOutline; ({ t with outlines := t.outlines ++ [(key, o)] }, o)

def size (t : Tessellations) : Nat := t.meshes.length + t.outlines.length

def preview (t : Tessellations) (p : Primitive) : Tessellations × Shape :=
  if p.dimension == 2 then let (t, o) := t.outline p; (t, .outline o)
  else let (t, m) := t.mesh p; (t, .mesh m)

def exact (t : Tessellations) (p : Primitive) : Tessellations × Shape :=
  if p.dimension == 2 then let (t, o) := t.outline p; (t, .outline o)
  else let (t, m) := t.mesh p; (t, .solid (Solid.ofMesh m))

end Tessellations

end CsgPreview.Cache
