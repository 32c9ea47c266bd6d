import CsgPreview.Geometry.Boolean
import CsgPreview.Scene.Color

/-!
Boolean terms over placed geometry.

A leaf is computed geometry with the transform that places it; an operation combines two terms.
Every term knows its bounding box, its number of leaves and its overlay flags (highlight,
background). The empty set is no term at all (`none`), and the constructor `combine` never builds
an operation with an empty operand: a union drops an empty side; an intersection with an empty
side, or of disjoint boxes, is empty; a difference from an empty left is empty, and with an empty
right or disjoint boxes it is its left.
-/

namespace CsgPreview.Csg

open CsgPreview.Geometry Scene

/-- Overlay routing of a term's entries. -/
structure Flags where
  highlight : Bool := false
  background : Bool := false
  deriving DecidableEq, Inhabited, Repr

def Flags.union (a b : Flags) : Flags := ⟨a.highlight || b.highlight, a.background || b.background⟩

/-- Computed geometry placed in the scene. -/
structure Leaf where
  geometry : Shape
  matrix : Mat4
  color : Option Rgba
  label : String
  index : Nat
  deriving Inhabited

/-- A boolean term with its box, leaf count and flags. -/
inductive Term where
  | leaf (leaf : Leaf) (box : Box) (flags : Flags)
  | op (op : BooleanOp) (left right : Term) (box : Box) (leaves : Nat) (flags : Flags)
  deriving Inhabited

namespace Term

def box : Term → Box
  | .leaf _ b _ => b
  | .op _ _ _ b _ _ => b

def leafCount : Term → Nat
  | .leaf .. => 1
  | .op _ _ _ _ n _ => n

def flags : Term → Flags
  | .leaf _ _ f => f
  | .op _ _ _ _ _ f => f

def isLeaf : Term → Bool
  | .leaf .. => true
  | .op .. => false

def opKind? : Term → Option BooleanOp
  | .leaf .. => none
  | .op o .. => some o

def withFlags (t : Term) (f : Flags) : Term :=
  match t with
  | .leaf l b g => .leaf l b (g.union f)
  | .op o l r b n g => .op o l r b n (g.union f)

/-- A leaf term, none when the geometry is empty; its box is the geometry's box moved by the
leaf's transform. -/
def ofLeaf (leaf : Leaf) : Option Term :=
  if leaf.geometry.isEmpty then none
  else some (.leaf leaf (leaf.geometry.box.transformed leaf.matrix) {})

/-- An operation node over two terms: the box is the union of both boxes, their overlap, or the
left box, by operation. -/
def opNode (o : BooleanOp) (l r : Term) (f : Flags) : Term :=
  let b := match o with
    | .union => l.box.merge r.box
    | .intersection => l.box.intersection r.box
    | .difference => l.box
  .op o l r b (l.leafCount + r.leafCount) f

/-- Combine two terms, pruning empty operands and disjoint boxes, with the given flags on a
new node. -/
def combineFlagged (o : BooleanOp) (l r : Option Term) (f : Flags) : Option Term :=
  match o, l, r with
  | .union, none, side => side
  | .union, side, none => side
  | .intersection, none, _ => none
  | .intersection, _, none => none
  | .difference, none, _ => none
  | .difference, left, none => left
  | o, some left, some right =>
    if !left.box.intersects right.box then
      match o with
      | .intersection => none
      | .difference => some left
      | .union => some (opNode o left right f)
    else some (opNode o left right f)

def combine (o : BooleanOp) (l r : Option Term) : Option Term := combineFlagged o l r {}

def dump : Term → String
  | .leaf l _ _ => l.label
  | .op o l r _ _ _ => "(" ++ l.dump ++ " " ++ o.symbol ++ " " ++ r.dump ++ ")"

end Term

end CsgPreview.Csg
