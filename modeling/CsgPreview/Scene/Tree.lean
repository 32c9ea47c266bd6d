import CsgPreview.Scene.Node
import CsgPreview.Digest.Sha256
import CsgPreview.Log

/-!
The scene tree of one compile: its nodes in pre-order, the effective root, and a key for every
subtree.

The effective root is the first node marked `!` outside disabled subtrees, else the top group.
A leaf's key is its dump line and `;`. An inner node's key is its dump line, `#` and the first 16
bytes (hexadecimal) of the SHA-256 of the dump line followed by `\n` and the key of each child that
is neither disabled nor background, so equal subtrees get equal keys.
-/

namespace CsgPreview.Scene

open Script

/-- A node as built, with its children, before it is placed in the array. -/
inductive Built where
  | node (kind : NodeKind) (modifiers : Modifiers) (position : Nat) (children : List Built)
  deriving Inhabited

mutual

def Built.place : Built → Array SceneNode → Array SceneNode
  | .node kind marks pos children, acc =>
    let index := acc.size
    let (acc, ids) := Built.placeAll children (acc.push ⟨index, kind, marks, [], index + 1, pos⟩) []
    acc.modify index fun n => { n with children := ids.reverse, subtreeEnd := acc.size }

def Built.placeAll : List Built → Array SceneNode → List Nat → Array SceneNode × List Nat
  | [], acc, ids => (acc, ids)
  | b :: rest, acc, ids => Built.placeAll rest (b.place acc) (acc.size :: ids)

end

def rootCandidates (nodes : Array SceneNode) (i : Nat) : List Nat :=
  if h : i < nodes.size then
    let n := nodes[i]
    if n.modifiers.disabled then
      let next := max n.subtreeEnd (i + 1)
      have : nodes.size - next < nodes.size - i := by omega
      rootCandidates nodes next
    else if n.modifiers.root then i :: rootCandidates nodes (i + 1)
    else rootCandidates nodes (i + 1)
  else []
termination_by nodes.size - i

def subtreeKeys (nodes : Array SceneNode) : Array String :=
  (List.range nodes.size).reverse.foldl (fun (keys : Array String) index =>
    let n := nodes[index]!
    let line := n.kind.describe
    let key :=
      if n.kind.isLeaf then line ++ ";"
      else
        let parts := n.children.filterMap fun c =>
          let m := (nodes[c]!).modifiers
          if m.disabled || m.background then none else some ("\n" ++ keys[c]!)
        let digest := Digest.sha256 (String.join (line :: parts)).toUTF8.toList
        line ++ "#" ++ String.join ((digest.take 16).map Digest.hexByte)
    keys.set! index key) (Array.replicate nodes.size "")

/-- A scene tree. -/
structure SceneTree where
  nodes : Array SceneNode
  root : Nat
  keys : Array String
  deriving Inhabited

namespace SceneTree

/-- The tree of a built top node: nodes placed, the effective root found (with a warning when
several are marked), keys computed. -/
def ofBuilt (top : Built) : Logged SceneTree := do
  let nodes := top.place #[]
  let roots := rootCandidates nodes 0
  if roots.length > 1 then
    report .warn .sceneTree ("Root modifier (!) used in multiple places (" ++
      toString roots.length ++ " nodes), using the first")
  pure ⟨nodes, roots.headD 0, subtreeKeys nodes⟩

def node (t : SceneTree) (i : Nat) : SceneNode := t.nodes[i]!

def rootNode (t : SceneTree) : SceneNode := t.node t.root

def key (t : SceneTree) (i : Nat) : String := t.keys[i]!

def totalIndexCount (t : SceneTree) : Nat := t.rootNode.subtreeLen

def dumpLines (t : SceneTree) : Nat → Nat → Nat → String
  | 0, _, _ => ""
  | fuel + 1, index, indent =>
    let n := t.node index
    let pad := String.ofList (List.replicate indent '\t')
    let line := pad ++ n.modifiers.text ++ n.kind.describe
    if n.children.isEmpty then line ++ ";\n"
    else
      line ++ " \x7b\n" ++ String.join (n.children.map fun c => t.dumpLines fuel c (indent + 1)) ++
        pad ++ "\x7d\n"

def dumpNode (t : SceneTree) (index : Nat) : String := t.dumpLines (t.nodes.size + 1) index 0

def dump (t : SceneTree) : String := t.dumpNode t.root

end SceneTree

end CsgPreview.Scene
