import CsgPreview.Scene.Color
import CsgPreview.Geometry.Primitive
import CsgPreview.Script.Syntax
import CsgPreview.Geometry.Boolean

/-!
Nodes of the scene tree: groups and boolean operations combine their children, transforms and
colors apply to them, and primitives are the leaves.

A tree is stored as an array in pre-order, so the nodes below a node are exactly the ones from
its own index up to (not including) its `subtreeEnd`.
-/

namespace CsgPreview.Scene

open CsgPreview.Geometry

/-- What a node does. -/
inductive NodeKind where
  | group
  | union
  | difference
  | intersection
  | transform (matrix : Mat4)
  | color (c : Rgba)
  | primitive (p : Primitive)
  deriving Inhabited

namespace NodeKind

def isLeaf : NodeKind → Bool
  | .primitive _ => true
  | _ => false

def describe : NodeKind → String
  | .group => "group()"
  | .union => "union()"
  | .difference => "difference()"
  | .intersection => "intersection()"
  | .transform m => "multmatrix(" ++ m.text ++ ")"
  | .color c => "color(" ++ c.text ++ ")"
  | .primitive p => p.describe

/-- The operation that joins the node's children: a difference or an intersection for those
nodes, a union for every other. -/
def combineOp : NodeKind → BooleanOp
  | .difference => .difference
  | .intersection => .intersection
  | _ => .union

end NodeKind

/-- One node of a scene tree in its array. -/
structure SceneNode where
  index : Nat
  kind : NodeKind
  modifiers : Script.Modifiers
  children : List Nat
  /-- One past the last node of this node's subtree. -/
  subtreeEnd : Nat
  /-- Byte offset of the call the node comes from. -/
  position : Nat
  deriving Inhabited

def SceneNode.subtreeLen (n : SceneNode) : Nat := n.subtreeEnd - n.index

end CsgPreview.Scene
