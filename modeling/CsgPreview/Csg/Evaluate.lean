import CsgPreview.Csg.Term
import CsgPreview.Scene.Tree
import CsgPreview.Cache.Lru
import CsgPreview.Cache.Tessellation
import CsgPreview.Pipeline.Progress
import CsgPreview.Error

/-!
Evaluating a scene tree into boolean terms for the preview.

The walk starts at the tree's effective root with the identity transform and no color. A
primitive becomes a leaf whose geometry comes from the preview cache (computed through the
tessellations on a miss), placed by the transforms above it and colored by the nearest color
above it. Other nodes combine their children's terms left to right with their operation; a
difference or intersection that becomes empty stops there, and only the overlay subtrees among
its remaining children are still walked. Disabled subtrees count as done and give nothing.

A highlighted or background node gives nothing to its parent: its term, flagged, is routed out
into the highlights or the backgrounds. Progress counts tree nodes from the root. The walk meets
a checkpoint of the cancel token at every primitive, and the kernel another before it tessellates
on a miss; a cancel seen there stops the evaluation with an error, keeping what the cache has
gained.
-/

namespace CsgPreview.Csg

open CsgPreview.Geometry Scene Cache Pipeline

/-- The main term of a tree and the overlay terms routed out of it. -/
structure Evaluated where
  primary : Option Term
  highlights : Array Term
  backgrounds : Array Term

/-- What an evaluation changes as it goes. -/
structure Walk where
  cache : LruCache Shape
  tessellations : Tessellations
  progress : Progress
  highlights : Array Term := #[]
  backgrounds : Array Term := #[]
  cancel : CancelToken := {}

abbrev Walking := ExceptT PipelineError (StateT Walk Logged)

def leafLabel (key : String) : String :=
  String.ofList ((key.toList.reverse.dropWhile (· == ';')).reverse)

def markDone (done : Nat) : Walking Unit :=
  modify fun w => { w with progress := w.progress.mark done }

def walkCheckpoint : Walking Unit := do
  let w ← get
  if w.cancel.isCancelled then throw .cancelled
  set { w with cancel := w.cancel.after 1 }

/-- The preview geometry of a primitive under a key, after a checkpoint: the cached value counted
as a hit, or on a miss, after the kernel's own checkpoint, the tessellation, stored in the
cache. -/
def leafGeometry (key : String) (p : Primitive) : Walking Shape := do
  walkCheckpoint
  let w ← get
  match w.cache.lookup key with
  | (cache, some g) =>
    set { w with cache }
    pure g
  | (cache, none) =>
    set { w with cache }
    walkCheckpoint
    let (tessellations, g) := w.tessellations.preview p
    let cache ← (cache.insert key g g.memorySize : Logged (LruCache Shape))
    modify fun w => { w with cache, tessellations }
    pure g

def accumulate (op : BooleanOp) : Option Term → Term → Option Term
  | none, t => some t
  | some acc, t => Term.combine op (some acc) (some t)

/-- Combine the children's terms left to right with `op`, each child's term given by `eval`. An
empty child is skipped; once a difference or intersection is empty, the children left are only
searched for overlays by `route`, and the result is empty. -/
def combineChildren (eval : Nat → Walking (Option Term)) (route : Nat → Walking Unit)
    (op : BooleanOp) : List Nat → Option Term → Walking (Option Term)
  | [], result => pure result
  | child :: rest, result => do
    match ← eval child with
    | none => combineChildren eval route op rest result
    | some term =>
      let result := accumulate op result term
      if result.isNone && op != .union then
        rest.forM route
        return none
      combineChildren eval route op rest result

def placement (kind : NodeKind) (matrix : Mat4) (color : Option Rgba) :
    Mat4 × Option Rgba :=
  match kind with
  | .transform m => (matrix.mul m, color)
  | .color c => (matrix, some c)
  | _ => (matrix, color)

def primitiveTerm (tree : SceneTree) (origin index : Nat) (p : Primitive)
    (matrix : Mat4) (color : Option Rgba) : Walking (Option Term) := do
  let key := tree.key index
  let g ← leafGeometry key p
  markDone (index + 1 - origin)
  pure (Term.ofLeaf ⟨g, matrix, color, leafLabel key, index⟩)

/-- A highlighted or background node gives nothing to its parent: its term, flagged, goes to the
backgrounds (`%` wins) or the highlights. -/
def routeOut (node : SceneNode) (term : Option Term) : Walking (Option Term) := do
  if node.modifiers.background || node.modifiers.highlight then
    if let some t := term then
      if node.modifiers.background then
        modify fun w => { w with backgrounds := w.backgrounds.push (t.withFlags ⟨false, true⟩) }
      else
        modify fun w => { w with highlights := w.highlights.push (t.withFlags ⟨true, false⟩) }
    return none
  return term

mutual

def evalNode (tree : SceneTree) (origin : Nat) :
    Nat → Nat → Mat4 → Option Rgba → Walking (Option Term)
  | 0, _, _, _ => pure none
  | fuel + 1, index, matrix, color => do
    let node := tree.node index
    if node.modifiers.disabled then
      markDone (node.subtreeEnd - origin)
      return none
    let term ← match node.kind with
      | .primitive p => primitiveTerm tree origin index p matrix color
      | kind =>
        let (matrix, color) := placement kind matrix color
        combineChildren (fun child => evalNode tree origin fuel child matrix color)
          (fun child => routeOverlays tree origin fuel child matrix color)
          kind.combineOp node.children none
    routeOut node term

/-- Walk a subtree only for its overlays: highlighted and background nodes are evaluated (and
routed out), everything else just counts as done. -/
def routeOverlays (tree : SceneTree) (origin : Nat) :
    Nat → Nat → Mat4 → Option Rgba → Walking Unit
  | 0, _, _, _ => pure ()
  | fuel + 1, index, matrix, color => do
    let node := tree.node index
    if node.modifiers.background || node.modifiers.highlight then
      discard <| evalNode tree origin fuel index matrix color
    else if node.modifiers.disabled then
      markDone (node.subtreeEnd - origin)
    else
      match node.kind with
      | .primitive _ => markDone (index + 1 - origin)
      | kind =>
        let (matrix, color) := placement kind matrix color
        node.children.forM fun child => routeOverlays tree origin fuel child matrix color

end

/-- Evaluate a tree from its effective root, reporting progress over the root's subtree and
finishing it at the end. -/
def evaluate (tree : SceneTree) : Walking Evaluated := do
  modify fun w => { w with progress := Progress.start tree.totalIndexCount }
  let primary ← evalNode tree tree.root (tree.nodes.size + 1) tree.root
    Mat4.identity none
  modify fun w => { w with progress := w.progress.finish }
  let w ← get
  return ⟨primary, w.highlights, w.backgrounds⟩

end CsgPreview.Csg
