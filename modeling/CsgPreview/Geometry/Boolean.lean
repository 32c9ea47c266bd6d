import CsgPreview.Geometry.Shape
import CsgPreview.Log

/-!
Boolean operations on computed geometry, worked out on bounding boxes: a union puts the operands
together, a difference keeps what is subtracted from, and an intersection keeps its first operand
when all the boxes overlap and is empty otherwise.

The first non-empty operand decides the dimension; operands of the other dimension are left out
with a warning. An empty operand empties a difference it would be subtracted from and any
intersection.
-/

namespace CsgPreview.Geometry

/-- A boolean operation. -/
inductive BooleanOp where
  | union
  | difference
  | intersection
  deriving DecidableEq, Repr, Inhabited

namespace BooleanOp

def symbol : BooleanOp → String
  | .union => "+"
  | .difference => "-"
  | .intersection => "*"

def name : BooleanOp → String
  | .union => "union"
  | .difference => "difference"
  | .intersection => "intersection"

end BooleanOp

/-- Operands of one dimension put together: outlines merged, or meshes appended, which is a
solid when any operand is one (a mesh counting as one volume). -/
def concatenate (operands : List Shape) (dimension : Nat) : Shape :=
  if dimension == 2 then
    .outline (operands.foldl (fun o g => match g with
      | .outline x => o.merge x
      | _ => o) {})
  else
    let (mesh, volumes, exact) := operands.foldl (fun (acc : Mesh × Nat × Bool) g =>
      let (mesh, volumes, exact) := acc
      match g with
      | .solid s => (mesh.append s.polyhedron, volumes + s.volumes, true)
      | .mesh m => (mesh.append m, volumes + 1, exact)
      | .outline _ => acc) ({}, 0, false)
    if exact then .solid ⟨mesh, volumes⟩ else .mesh mesh

def applyBoolean (op : BooleanOp) (operands : List Shape) : Logged (Option Shape) := do
  match operands.find? (!·.isEmpty) with
  | none => pure none
  | some first =>
    let dimension := first.dimension
    let rec keep : List Shape → List Shape → Nat → Option (List Shape × Nat)
      | [], kept, dropped => some (kept.reverse, dropped)
      | g :: rest, kept, dropped =>
        if g.isEmpty then
          if (kept.isEmpty && op == .difference) || op == .intersection then none
          else keep rest kept dropped
        else if g.dimension != dimension then keep rest kept (dropped + 1)
        else keep rest (g :: kept) dropped
    match keep operands [] 0 with
    | none => pure none
    | some (kept, dropped) =>
      if dropped > 0 then
        report .warn .booleans ("Mixing 2D and 3D objects is not supported; ignoring " ++
          toString dropped ++ " operand(s) of " ++ op.name)
      match op with
      | .union => pure (some (concatenate kept dimension))
      | .difference => pure kept.head?
      | .intersection =>
        match kept with
        | [] => pure none
        | k :: rest =>
          let overlap := rest.foldl (fun acc g => acc.intersection g.box) k.box
          pure (if overlap.isEmpty then none else some k)

end CsgPreview.Geometry
