import CsgPreview.Scene.Tree
import CsgPreview.Cache.Lru
import CsgPreview.Cache.Tessellation
import CsgPreview.Geometry.Boolean
import CsgPreview.Error
import CsgPreview.Pipeline.Progress

/-!
The exact render of a scene tree: one piece of geometry for the whole design.

Each node is looked up in the exact cache under its subtree key first. On a miss a primitive
becomes its exact geometry (a solid in space, an outline in the plane), and any other node
combines the geometry of its children with its operation; a transform moves the union of its
children. Non-empty results are stored. Disabled and background subtrees give nothing, and
every subtree finished, cached or skipped counts toward the progress.

The render meets a checkpoint of the cancel token at every node it looks up, and the kernel
another before each primitive it makes and each combination; a cancel seen there stops the
render with an error.

The render is written over a solid kernel, which supplies the geometry and the operations on
it; the program renders with `meshSolidKernel`.
-/

namespace CsgPreview.Pipeline

open CsgPreview.Geometry Scene Cache

/-- What the exact render asks of a geometry kernel, over the kernel's own values: the geometry
of a primitive (reusing the tessellations it is given), a value moved by a transform, and
operands combined left to right, none when the result is empty; and of a value, whether it is
empty and what it weighs in the exact cache. -/
structure SolidKernel (G : Type) where
  primitive : Tessellations → Primitive → Tessellations × G
  transform : G → Mat4 → G
  combine : BooleanOp → List G → Logged (Option G)
  isEmpty : G → Bool
  weight : G → Nat

/-- The kernel of the exact render: primitives as solids (outlines in the plane), booleans worked
out on bounding boxes, values weighed by their memory size. -/
def meshSolidKernel : SolidKernel Shape where
  primitive := Tessellations.exact
  transform g m := g.transformed m
  combine := applyBoolean
  isEmpty := Shape.isEmpty
  weight := Shape.memorySize

/-- What a render changes as it goes: the exact cache, the tessellations, and the nodes done
out of the total, with the largest permille value reached. -/
structure Rendering (G : Type) where
  cache : LruCache G
  tessellations : Tessellations
  done : Nat := 0
  total : Nat
  progress : Nat := 0
  cancel : CancelToken := {}

abbrev RenderStep (G : Type) := ExceptT PipelineError (StateT (Rendering G) Logged)

variable {G : Type}

/-- Count `n` more nodes as done; the progress is the permille value of the nodes done, below
1000, and never goes down. -/
def advance (n : Nat) : RenderStep G Unit :=
  modify fun r =>
    let done := r.done + n
    { r with done, progress := max r.progress (min (done * 1000 / r.total) 999) }

def renderCheckpoint : RenderStep G Unit := do
  let r ← get
  if r.cancel.isCancelled then throw .cancelled
  set { r with cancel := r.cancel.after 1 }

/-- The geometry of a node from its children's: a transform moves their union, any other node
combines them with its operation. -/
def combineOperands (K : SolidKernel G) (kind : NodeKind) (operands : List G) :
    Logged (Option G) :=
  match kind with
  | .transform m => do
    let joined ← K.combine .union operands
    pure (joined.map (K.transform · m))
  | kind => K.combine kind.combineOp operands

def renderNode (K : SolidKernel G) (tree : SceneTree) :
    Nat → Nat → RenderStep G (Option G)
  | 0, _ => pure none
  | fuel + 1, index => do
    let node := tree.node index
    if node.modifiers.disabled || node.modifiers.background then
      advance node.subtreeLen
      return none
    renderCheckpoint
    let key := tree.key index
    let r ← get
    let (cache, hit) := r.cache.get key
    set { r with cache }
    if let some g := hit then
      advance node.subtreeLen
      return some g
    let geometry ← match node.kind with
      | .primitive p => do
        renderCheckpoint
        let r ← get
        let (tessellations, g) := K.primitive r.tessellations p
        set { r with tessellations }
        pure (some g)
      | kind => do
        let mut operands : Array G := #[]
        for child in node.children do
          if let some g ← renderNode K tree fuel child then
            operands := operands.push g
        renderCheckpoint
        (combineOperands K kind operands.toList : Logged (Option G))
    advance 1
    match geometry with
    | some g =>
      if K.isEmpty g then return none
      let r ← get
      let cache ← (r.cache.insert key g (K.weight g) : Logged (LruCache G))
      set { r with cache }
      return some g
    | none => return none

/-- Render a tree from its effective root; on success the progress is complete and the exact
cache's counters are reported. -/
def renderTree (K : SolidKernel G) (tree : SceneTree) : RenderStep G (Option G) := do
  modify fun r => { r with done := 0, total := max tree.totalIndexCount 1, progress := 0 }
  let g ← renderNode K tree (tree.nodes.size + 1) tree.root
  modify fun r => { r with progress := 1000 }
  let r ← get
  report .debug .worker r.cache.stats.text
  return g

end CsgPreview.Pipeline
