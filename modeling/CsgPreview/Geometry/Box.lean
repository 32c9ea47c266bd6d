import CsgPreview.Geometry.Matrix
import CsgPreview.Arith.Basic

/-!
Axis-aligned bounding boxes. The empty box runs from `+∞` to `-∞` on every axis, so that it
contains nothing and growing it by a point gives that point. Boxes that only touch count as
intersecting.
-/

namespace CsgPreview.Geometry

open Arith

/-- An axis-aligned box by its lowest and highest corners. -/
structure Box where
  min : Vec3
  max : Vec3
  deriving Inhabited

namespace Box

def empty : Box := ⟨⟨inf, inf, inf⟩, ⟨-inf, -inf, -inf⟩⟩

def isEmpty (b : Box) : Bool := b.min.x > b.max.x || b.min.y > b.max.y || b.min.z > b.max.z

def grow (b : Box) (p : Vec3) : Box :=
  ⟨⟨fmin b.min.x p.x, fmin b.min.y p.y, fmin b.min.z p.z⟩,
   ⟨fmax b.max.x p.x, fmax b.max.y p.y, fmax b.max.z p.z⟩⟩

def ofPoints (ps : List Vec3) : Box := ps.foldl grow empty

def merge (a b : Box) : Box :=
  if a.isEmpty then b
  else if b.isEmpty then a
  else ⟨⟨fmin a.min.x b.min.x, fmin a.min.y b.min.y, fmin a.min.z b.min.z⟩,
        ⟨fmax a.max.x b.max.x, fmax a.max.y b.max.y, fmax a.max.z b.max.z⟩⟩

def intersection (a b : Box) : Box :=
  let r : Box := ⟨⟨fmax a.min.x b.min.x, fmax a.min.y b.min.y, fmax a.min.z b.min.z⟩,
                  ⟨fmin a.max.x b.max.x, fmin a.max.y b.max.y, fmin a.max.z b.max.z⟩⟩
  if r.isEmpty then empty else r

def intersects (a b : Box) : Bool :=
  !a.isEmpty && !b.isEmpty && a.min.x <= b.max.x && a.max.x >= b.min.x &&
    a.min.y <= b.max.y && a.max.y >= b.min.y && a.min.z <= b.max.z && a.max.z >= b.min.z

def transformed (b : Box) (m : Mat4) : Box :=
  if b.isEmpty then b
  else
    let lo := b.min
    let hi := b.max
    ofPoints ([⟨lo.x, lo.y, lo.z⟩, ⟨hi.x, lo.y, lo.z⟩, ⟨lo.x, hi.y, lo.z⟩, ⟨hi.x, hi.y, lo.z⟩,
      ⟨lo.x, lo.y, hi.z⟩, ⟨hi.x, lo.y, hi.z⟩, ⟨lo.x, hi.y, hi.z⟩, ⟨hi.x, hi.y, hi.z⟩].map
      m.transformPoint)

end Box

end CsgPreview.Geometry
