import Mathlib
import CsgPreview.Proofs.Pipeline.Keeps
import CsgPreview.Proofs.Csg.WalkSteps
import CsgPreview.Proofs.Cache.Faithful
import CsgPreview.Proofs.Scene.Solid

/-!
The term the preview gives a subtree, as a function of the tree.

Caches *serve* a tree when they hold only what the tree's own primitives make: an entry stored
under the key of a primitive node is that primitive's preview shape, and a tessellation stored
under the description of a primitive of the tree is the one it makes. Fresh caches serve every
tree, and in an unambiguous tree the walk keeps them serving it.

From such caches the walk gives every subtree one term, `previewTerm`: a primitive is the leaf of
its preview shape under the transform and color above it; another node combines the terms of
its children left to right, skipping empty ones and stopping once a difference or an intersection
is empty; a disabled, background or highlighted node gives nothing. An evaluation that no cancel
reaches always finishes, and its main term is the term of the effective root.

That a step always finishes is said by `Settles`, the counterpart of `Keeps` that also promises
a result: every run from a state with the invariant succeeds.
-/

namespace CsgPreview

variable {σ α β : Type} {P : σ → Prop} {Q Q' : α → Prop}

/-- Every run of `x` from a state in `P` succeeds, ending in a state in `P` with a result in
`Q`. -/
def Settles (P : σ → Prop) (x : Step σ α) (Q : α → Prop) : Prop :=
  ∀ s log, P s → ∃ a s', ((x.run.run s).run log).run.1 = (.ok a, s') ∧ P s' ∧ Q a

theorem Settles.pure {a : α} (ha : Q a) : Settles P (Pure.pure a : Step σ α) Q :=
  fun s _ hs => ⟨a, s, rfl, hs, ha⟩

theorem Settles.bind {x : Step σ α} {f : α → Step σ β} {Q₂ : β → Prop} (hx : Settles P x Q)
    (hf : ∀ a, Q a → Settles P (f a) Q₂) : Settles P (x >>= f) Q₂ := by
  intro s log hs
  obtain ⟨a, s₁, run, hs₁, ha⟩ := hx s log hs
  rcases hfirst : ((x.run.run s).run log).run with ⟨⟨r, s₂⟩, log₁⟩
  rw [hfirst] at run
  obtain ⟨rfl, rfl⟩ : r = .ok a ∧ s₂ = s₁ := by simpa using run
  rw [Step.run_bind_of_ok hfirst]
  exact hf a ha s₂ log₁ hs₁

theorem Settles.mono {x : Step σ α} (h : Settles P x Q) (hQ : ∀ a, Q a → Q' a) :
    Settles P x Q' := fun s log hs =>
  (h s log hs).imp fun _ ⟨s', run, hs', ha⟩ => ⟨s', run, hs', hQ _ ha⟩

theorem Settles.modify {f : σ → σ} (hf : ∀ s, P s → P (f s)) :
    Settles P (modify f : Step σ Unit) (fun _ => True) :=
  fun s _ hs => ⟨(), f s, rfl, hf s hs, trivial⟩

theorem Settles.get_bind {f : σ → Step σ α} (hf : ∀ s, P s → Settles P (f s) Q) :
    Settles P (get >>= f) Q := fun s log hs => by
  rw [Step.run_get_bind]
  exact hf s hs s log hs

theorem Settles.discard {x : Step σ α} (h : Settles P x Q) :
    Settles P (Functor.discard x) (fun _ => True) := by
  have hdiscard : Functor.discard x = x >>= fun _ => Pure.pure PUnit.unit := by
    simp only [Functor.discard, map_const]
    rfl
  rw [hdiscard]
  exact h.bind fun _ _ => .pure trivial

theorem Settles.forM_list {xs : List α} {f : α → Step σ PUnit}
    (hround : ∀ x ∈ xs, Settles P (f x) (fun _ => True)) :
    Settles P (xs.forM f) (fun _ => True) := by
  induction xs with
  | nil => exact .pure trivial
  | cons x rest ih =>
    exact (hround x List.mem_cons_self).bind
      fun _ _ => ih fun y mem => hround y (List.mem_cons_of_mem x mem)

theorem Settles.of_keeps {P' : σ → Prop} {x : Step σ α} (hs : Settles P' x fun _ => True)
    (hk : Keeps P x Q) : Settles (fun s => P s ∧ P' s) x Q := fun s log ⟨hP, hP'⟩ => by
  obtain ⟨a, s', run, hP'', -⟩ := hs s log hP'
  obtain ⟨hP₂, ha⟩ := hk s log a s' hP run
  exact ⟨a, s', run, ⟨hP₂, hP''⟩, ha⟩

end CsgPreview

namespace CsgPreview.Scene.SceneTree

open CsgPreview.Geometry

variable {t : SceneTree}

theorem Unambiguous.primitive_eq_of_key_eq (hu : t.Unambiguous) {i j : Nat} {p q : Primitive}
    (hi : (t.node i).kind = .primitive p) (hj : (t.node j).kind = .primitive q)
    (key : t.key j = t.key i) : q = p := by
  have same := (hu.key_eq j (lt_of_kind_eq_primitive hj) i (lt_of_kind_eq_primitive hi) key).1
  rw [hi, hj] at same
  cases same
  rfl

theorem Unambiguous.primitive_eq_of_describe_eq (hu : t.Unambiguous) {i j : Nat}
    {p q : Primitive} (hi : (t.node i).kind = .primitive p) (hj : (t.node j).kind = .primitive q)
    (same : q.describe = p.describe) : q = p :=
  hu.describe_eq j (lt_of_kind_eq_primitive hj) i (lt_of_kind_eq_primitive hi) q p hj hi same

end CsgPreview.Scene.SceneTree

namespace CsgPreview.Cache

open CsgPreview.Geometry Scene

variable {t : SceneTree}

/-- Entries kept under the descriptions of primitives of `t`, each what its primitive makes. -/
def MadeFor {α : Type} (t : SceneTree) (make : Primitive → α) (entries : List (String × α)) :
    Prop :=
  ∀ e ∈ entries, ∀ i p, (t.node i).kind = .primitive p → p.describe = e.1 → e.2 = make p

section MadeFor

variable {α : Type} {make : Primitive → α} {entries : List (String × α)} {i : Nat}
  {p : Primitive}

theorem MadeFor.eq_of_find? (h : MadeFor t make entries) (prim : (t.node i).kind = .primitive p)
    {e : String × α} (found : entries.find? (·.1 == p.describe) = some e) : e.2 = make p := by
  have same : e.1 = p.describe := by simpa using List.find?_some found
  exact h e (List.mem_of_find?_eq_some found) i p prim same.symm

theorem MadeFor.append_made (h : MadeFor t make entries) (hu : t.Unambiguous)
    (prim : (t.node i).kind = .primitive p) :
    MadeFor t make (entries ++ [(p.describe, make p)]) := by
  intro e mem j q primq same
  rcases List.mem_append.mp mem with old | new
  · exact h e old j q primq same
  · rw [List.mem_singleton] at new
    subst new
    rw [hu.primitive_eq_of_describe_eq prim primq same]

end MadeFor

/-- Every mesh and outline kept under the description of a primitive of `t` is the one it
makes. -/
structure Tessellations.Serves (t : SceneTree) (ts : Tessellations) : Prop where
  meshes : MadeFor t Primitive.toMesh ts.meshes
  outlines : MadeFor t Primitive.toOutline ts.outlines

namespace Tessellations

variable {ts : Tessellations} {i : Nat} {p : Primitive}

theorem serves_empty (t : SceneTree) : ({} : Tessellations).Serves t :=
  ⟨fun _ mem => by simp at mem, fun _ mem => by simp at mem⟩

theorem Serves.mesh (h : ts.Serves t) (hu : t.Unambiguous) (prim : (t.node i).kind = .primitive p) :
    (ts.mesh p).2 = p.toMesh ∧ (ts.mesh p).1.Serves t := by
  unfold Tessellations.mesh
  dsimp only
  split
  next found => exact ⟨h.meshes.eq_of_find? prim found, h⟩
  next => exact ⟨rfl, h.meshes.append_made hu prim, h.outlines⟩

theorem Serves.outline (h : ts.Serves t) (hu : t.Unambiguous)
    (prim : (t.node i).kind = .primitive p) :
    (ts.outline p).2 = p.toOutline ∧ (ts.outline p).1.Serves t := by
  unfold Tessellations.outline
  dsimp only
  split
  next found => exact ⟨h.outlines.eq_of_find? prim found, h⟩
  next => exact ⟨rfl, h.meshes, h.outlines.append_made hu prim⟩

theorem Serves.preview (h : ts.Serves t) (hu : t.Unambiguous)
    (prim : (t.node i).kind = .primitive p) :
    (ts.preview p).2 = p.previewShape ∧ (ts.preview p).1.Serves t := by
  unfold Tessellations.preview Primitive.previewShape
  split
  · obtain ⟨made, serves⟩ := h.outline hu prim
    exact ⟨by rw [← made], serves⟩
  · obtain ⟨made, serves⟩ := h.mesh hu prim
    exact ⟨by rw [← made], serves⟩

end Tessellations

end CsgPreview.Cache

namespace CsgPreview.Csg

open CsgPreview.Geometry Scene Cache Pipeline

/-! ### The term of a subtree -/

/-- Combine terms left to right with `op`, as the walk combines the terms of a node's children:
an empty term is skipped, and once a difference or an intersection is empty it stays empty. -/
def combineTerms (op : BooleanOp) : List (Option Term) → Option Term → Option Term
  | [], acc => acc
  | none :: rest, acc => combineTerms op rest acc
  | some term :: rest, acc =>
    let acc := accumulate op acc term
    if acc.isNone && op != .union then none else combineTerms op rest acc

end CsgPreview.Csg

namespace CsgPreview.Scene.SceneTree

open CsgPreview.Geometry Csg

/-- The term of a subtree placed under `matrix` and `color`, each leaf the preview shape of its
primitive: nothing for a disabled node or one routed out to the overlays, the leaf of a
primitive, and otherwise the terms of the children combined with the node's operation. -/
def previewTerm (t : SceneTree) : Nat → Nat → Mat4 → Option Rgba → Option Term
  | 0, _, _, _ => none
  | fuel + 1, i, matrix, color =>
    let node := t.node i
    if node.modifiers.disabled then none
    else
      let term := match node.kind with
        | .primitive p => Term.ofLeaf ⟨p.previewShape, matrix, color, leafLabel (t.key i), i⟩
        | kind =>
          let (matrix, color) := placement kind matrix color
          combineTerms kind.combineOp (node.children.map fun c => t.previewTerm fuel c matrix color)
            none
      if node.modifiers.background || node.modifiers.highlight then none else term

end CsgPreview.Scene.SceneTree

namespace CsgPreview.Csg

open CsgPreview.Geometry Scene Cache Pipeline

variable {t : SceneTree}

/-! ### Caches that serve the tree -/

/-- A walk state that no cancel reaches and whose caches serve the primitives of `t`: an entry
of the preview cache under the key of a primitive node is that primitive's preview shape, and the
tessellations serve the tree. -/
structure Walk.Serves (t : SceneTree) (w : Walk) : Prop where
  preview : w.cache.Holds fun k g =>
    ∀ i p, (t.node i).kind = .primitive p → t.key i = k → g = p.previewShape
  tessellations : w.tessellations.Serves t
  uncancelled : w.cancel = {}

theorem Walk.serves_of_empty {w : Walk} (hc : w.cache.entries = []) (ht : w.tessellations = {})
    (uncancelled : w.cancel = {}) : w.Serves t :=
  ⟨fun e mem => by simp [hc] at mem, ht ▸ Tessellations.serves_empty t, uncancelled⟩

theorem Walk.settles_modify {f : Walk → Walk}
    (same : ∀ w, (f w).cache = w.cache ∧ (f w).tessellations = w.tessellations ∧
      (f w).cancel = w.cancel) :
    Settles (Walk.Serves t) (modify f) fun _ => True :=
  Settles.modify fun w serves => ⟨(same w).1 ▸ serves.preview, (same w).2.1 ▸ serves.tessellations,
    (same w).2.2 ▸ serves.uncancelled⟩

theorem walkCheckpoint_settles : Settles (Walk.Serves t) walkCheckpoint (fun _ => True) := by
  intro w log serves
  rw [Walking.run_walkCheckpoint, serves.uncancelled]
  exact ⟨(), _, rfl, ⟨serves.preview, serves.tessellations, rfl⟩, trivial⟩

section Steps

variable (hu : t.Unambiguous)
include hu

theorem leafGeometry_settles {i : Nat} {p : Primitive} (prim : (t.node i).kind = .primitive p) :
    Settles (Walk.Serves t) (leafGeometry (t.key i) p) (· = p.previewShape) := by
  unfold leafGeometry
  refine walkCheckpoint_settles.bind fun _ _ => Settles.get_bind fun w serves => ?_
  intro _ log _
  have kept := serves.preview.lookup (t.key i)
  split
  next cache g hit =>
    rw [hit] at kept
    have made := LruCache.good_of_lookup serves.preview (by rw [hit]) i p prim rfl
    exact ⟨g, { w with cache }, rfl, ⟨kept, serves.tessellations, serves.uncancelled⟩, made⟩
  next cache miss =>
    rw [miss] at kept
    obtain ⟨made, tessellated⟩ := serves.tessellations.preview hu prim
    -- a node with the same key is the same primitive, so the stored shape is its shape too
    have fits : ∀ j q, (t.node j).kind = .primitive q → t.key j = t.key i →
        p.previewShape = q.previewShape :=
      fun j q primq key => by rw [hu.primitive_eq_of_key_eq prim primq key]
    have stored := kept.insert fits p.previewShape.memorySize log
    rcases hpreview : w.tessellations.preview p with ⟨ts, g⟩
    rw [hpreview] at made tessellated
    dsimp only at made
    subst made
    simp only [Walking.run_set_bind, Walking.run_walkCheckpoint_bind, serves.uncancelled,
      Pipeline.CancelToken.isCancelled_default, Bool.false_eq_true, ↓reduceIte,
      Pipeline.CancelToken.after_default, Walking.run_lift_bind, Walking.run_modify_bind,
      Walking.run_pure]
    exact ⟨_, _, rfl, ⟨stored, tessellated, rfl⟩, rfl⟩

omit hu in
theorem markDone_settles (done : Nat) :
    Settles (Walk.Serves t) (markDone done) (fun _ => True) :=
  Walk.settles_modify fun _ => ⟨rfl, rfl, rfl⟩

theorem primitiveTerm_settles {origin i : Nat} {p : Primitive}
    (prim : (t.node i).kind = .primitive p) (matrix : Mat4) (color : Option Rgba) :
    Settles (Walk.Serves t) (primitiveTerm t origin i p matrix color)
      (· = Term.ofLeaf ⟨p.previewShape, matrix, color, leafLabel (t.key i), i⟩) := by
  unfold primitiveTerm
  exact (leafGeometry_settles hu prim).bind fun g hg =>
    (markDone_settles _).bind fun _ _ => .pure (by rw [hg])

omit hu in
theorem routeOut_settles (node : SceneNode) (term : Option Term) :
    Settles (Walk.Serves t) (routeOut node term)
      (· = if node.modifiers.background || node.modifiers.highlight then none else term) := by
  unfold routeOut
  split
  case isTrue marked =>
    cases term with
    | none => exact .pure rfl
    | some x =>
      dsimp only
      -- the term goes to the highlights or the background, which the caches do not hold
      split
      all_goals
        refine (Walk.settles_modify ?_).bind fun _ _ => .pure rfl
        exact fun _ => ⟨rfl, rfl, rfl⟩
  case isFalse unmarked => exact .pure rfl

omit hu in
theorem combineChildren_settles {eval : Nat → Walking (Option Term)} {route : Nat → Walking Unit}
    {P : Nat → Option Term} {cs : List Nat}
    (heval : ∀ c ∈ cs, Settles (Walk.Serves t) (eval c) (· = P c))
    (hroute : ∀ c ∈ cs, Settles (Walk.Serves t) (route c) (fun _ => True)) (op : BooleanOp)
    (acc : Option Term) :
    Settles (Walk.Serves t) (combineChildren eval route op cs acc)
      (· = combineTerms op (cs.map P) acc) := by
  induction cs generalizing acc with
  | nil => exact .pure rfl
  | cons c rest ih =>
    have hrest := ih (fun c' mem => heval c' (List.mem_cons_of_mem c mem))
      (fun c' mem => hroute c' (List.mem_cons_of_mem c mem))
    rw [combineChildren]
    refine (heval c List.mem_cons_self).bind fun r hr => ?_
    subst hr
    rw [List.map_cons]
    cases hc : P c with
    | none => simpa [combineTerms] using hrest acc
    | some term =>
      dsimp only
      split
      case isTrue emptied =>
        -- the rest is only searched for overlays
        refine (Settles.forM_list fun c' mem => hroute c' (List.mem_cons_of_mem c mem)).bind
          fun _ _ => .pure ?_
        simp only [combineTerms, emptied, ↓reduceIte]
      case isFalse going =>
        simpa [combineTerms, going] using hrest _

theorem walk_settles (origin fuel : Nat) : ∀ i matrix color,
    Settles (Walk.Serves t) (evalNode t origin fuel i matrix color)
        (· = t.previewTerm fuel i matrix color) ∧
      Settles (Walk.Serves t) (routeOverlays t origin fuel i matrix color) (fun _ => True) := by
  induction fuel with
  | zero => exact fun _ _ _ => ⟨.pure rfl, .pure trivial⟩
  | succ fuel ih =>
    intro i matrix color
    constructor
    · rw [evalNode]
      split
      case isTrue disabled =>
        exact (markDone_settles _).bind fun _ _ => .pure (by simp [SceneTree.previewTerm, disabled])
      case isFalse enabled =>
        dsimp only
        split
        case h_1 p prim =>
          refine (primitiveTerm_settles hu prim matrix color).bind fun term hterm =>
            (routeOut_settles _ term).mono fun r hr => ?_
          rw [hr, hterm, SceneTree.previewTerm]
          simp only [enabled, prim, Bool.false_eq_true, ↓reduceIte]
        case h_2 kind notPrim =>
          refine (combineChildren_settles (fun c _ => (ih c _ _).1) (fun c _ => (ih c _ _).2) _
            none).bind fun term hterm => (routeOut_settles _ term).mono fun r hr => ?_
          rw [hr, hterm, SceneTree.previewTerm]
          -- the preview's own match on the kind falls to the same branch, by notPrim
          simp only [enabled, Bool.false_eq_true, ↓reduceIte]
    · rw [routeOverlays]
      split
      case isTrue marked => exact (ih i matrix color).1.discard
      case isFalse unmarked =>
        split
        case isTrue disabled => exact markDone_settles _
        case isFalse enabled =>
          split
          case h_1 => exact markDone_settles _
          case h_2 =>
            split
            exact Settles.forM_list fun c _ => (ih c _ _).2

theorem evaluate_settles :
    Settles (Walk.Serves t) (evaluate t)
      (·.primary = t.previewTerm (t.nodes.size + 1) t.root Mat4.identity none) := by
  unfold evaluate
  refine (Walk.settles_modify ?_).bind fun _ _ =>
    (walk_settles hu _ _ _ _ _).1.bind fun primary hprimary =>
      (Walk.settles_modify ?_).bind fun _ _ => Settles.get_bind fun _ _ => .pure hprimary
  all_goals exact fun _ => ⟨rfl, rfl, rfl⟩

end Steps

end CsgPreview.Csg
