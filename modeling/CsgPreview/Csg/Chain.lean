import CsgPreview.Csg.Term

/-!
Render chains: the leaves of a normalized term in drawing order, each with the operation that
joins it to the product it belongs to. A product starts at every union entry; the entries after
it subtract from it or intersect with it.

Importing a term appends its leaves depth first: a left operand inherits the operation coming
in, a right operand takes its node's own operation, and flags accumulate on the way down.
-/

namespace CsgPreview.Csg

open CsgPreview.Geometry Scene

/-- How an entry is colored. -/
inductive ColorMode where
  | material
  | highlight
  | background
  deriving DecidableEq, Inhabited, Repr

def ColorMode.ofFlags (f : Flags) : ColorMode :=
  if f.highlight then .highlight else if f.background then .background else .material

def ColorMode.name : ColorMode → String
  | .material => "Material"
  | .highlight => "Highlight"
  | .background => "Background"

/-- One entry of a chain. -/
structure ChainEntry where
  geometry : Shape
  matrix : Mat4
  color : Option Rgba
  mode : ColorMode
  op : BooleanOp
  label : String
  box : Box
  index : Nat
  deriving Inhabited

/-- A render chain. -/
structure RenderChain where
  entries : Array ChainEntry := #[]
  deriving Inhabited

namespace RenderChain

def append (c : RenderChain) : Term → BooleanOp → Flags → RenderChain
  | .leaf l b f, op, flags =>
    ⟨c.entries.push ⟨l.geometry, l.matrix, l.color, .ofFlags (flags.union f), op, l.label, b,
      l.index⟩⟩
  | .op own left right _ _ f, op, flags =>
    let flags := flags.union f
    (c.append left op flags).append right own flags

def ofTerm : Option Term → RenderChain
  | some t => ({} : RenderChain).append t .union {}
  | none => {}

def size (c : RenderChain) : Nat := c.entries.size

def isEmpty (c : RenderChain) : Bool := c.entries.isEmpty

def products (c : RenderChain) : List (List ChainEntry) :=
  let (done, current) := c.entries.toList.foldl (fun (acc : List (List ChainEntry) × List ChainEntry) e =>
    let (done, current) := acc
    if e.op == .union && !current.isEmpty then (current.reverse :: done, [e])
    else (done, e :: current)) ([], [])
  (if current.isEmpty then done else current.reverse :: done).reverse

/-- The box of everything the chain can cover: each product's first entry clipped by its
intersections, all merged. -/
def box (c : RenderChain) : Box :=
  c.products.foldl (fun acc product =>
    match product with
    | [] => acc
    | first :: rest =>
      acc.merge (rest.foldl (fun b e => if e.op == .intersection then b.intersection e.box else b)
        first.box)) Box.empty

def dump (c : RenderChain) : String :=
  let body := (c.entries.toList.zipIdx).foldl (fun out (e, i) =>
    let mark := match e.op with
      | .union => (if i != 0 then "\n" else "") ++ "+"
      | .difference => " -"
      | .intersection => " *"
    out ++ mark ++ e.label) ""
  if body.isEmpty then body else body ++ "\n"

end RenderChain

end CsgPreview.Csg
