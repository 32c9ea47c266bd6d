import CsgPreview.Geometry.Box

/-!
Plane outlines: closed contours of points in the XY plane. A contour of fewer than three points
is not kept. Moving an outline by a transform keeps the x and y of the moved points; a transform
that mirrors the plane (negative determinant) reverses every contour.
-/

namespace CsgPreview.Geometry

/-- Closed contours in the XY plane. -/
structure Outline where
  contours : Array (Array Vec2) := #[]
  deriving Inhabited

namespace Outline

def addContour (o : Outline) (c : Array Vec2) : Outline :=
  if c.size ≥ 3 then ⟨o.contours.push c⟩ else o

def contourCount (o : Outline) : Nat := o.contours.size

def isEmpty (o : Outline) : Bool := o.contours.isEmpty

def pointCount (o : Outline) : Nat := o.contours.foldl (fun n c => n + c.size) 0

def merge (o other : Outline) : Outline := ⟨o.contours ++ other.contours⟩

def transformed (o : Outline) (m : Mat4) : Outline :=
  let moved := o.contours.map fun c => c.map fun p =>
    let q := m.transformPoint ⟨p.x, p.y, 0⟩
    (⟨q.x, q.y⟩ : Vec2)
  ⟨if m.det2 < 0 then moved.map Array.reverse else moved⟩

def box (o : Outline) : Box :=
  o.contours.foldl (fun b c => c.foldl (fun b p => b.grow ⟨p.x, p.y, 0⟩) b) Box.empty

def memorySize (o : Outline) : Nat := 24 + 24 * o.contours.size + 16 * o.pointCount

end Outline

end CsgPreview.Geometry
