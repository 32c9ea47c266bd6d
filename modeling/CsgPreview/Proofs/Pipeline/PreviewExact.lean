import Mathlib
import CsgPreview.Proofs.Csg.PreviewSets
import CsgPreview.Proofs.Pipeline.ExactRender
import CsgPreview.Proofs.Scene.SubtreeKeys

/-!
The preview and the exact render stand for the same set.

The exact render never fails unless a cancel comes, and from an empty exact cache it renders a
tree to the set the tree stands for. The preview walk, from caches that serve the tree, gives the
term of the effective root. So when the preview keeps no term for a drawn subtree that stands for
nothing, the main term of the preview stands for the set the exact render gives.

Without that condition the two part: in `difference() { difference() { cube(1); cube(1); }
cube(1); }` the inner difference stands for nothing, but its operands' boxes meet, so the preview
keeps its term and subtracts the last cube from it, leaving nothing, while the exact render drops
the empty subtree and keeps the last cube.
-/

namespace CsgPreview

open Std.Do

theorem Settles.of_triple {σ α : Type} {P : σ → Prop} {Q : α → Prop} {x : Step σ α}
    (h : ⦃fun s _ => ⌜P s⌝⦄ x ⦃post⟨fun a s _ => ⌜P s ∧ Q a⌝, fun _ _ _ => ⌜False⌝⟩⦄) :
    Settles P x Q := by
  intro s log hs
  have outcome := Step.run_of_triple h hs log
  split at outcome
  next a s' run => exact ⟨a, s', run, outcome⟩
  next => exact outcome.elim

end CsgPreview

namespace CsgPreview.Geometry.Box

open Arith

theorem points_subset {a b : Box} (hx : b.min.x ≤ a.min.x ∧ a.max.x ≤ b.max.x)
    (hy : b.min.y ≤ a.min.y ∧ a.max.y ≤ b.max.y) (hz : b.min.z ≤ a.min.z ∧ a.max.z ≤ b.max.z) :
    a.points ⊆ b.points := by
  rintro p ⟨⟨x₁, x₂⟩, ⟨y₁, y₂⟩, ⟨z₁, z₂⟩⟩
  exact ⟨⟨float_le_trans hx.1 x₁, float_le_trans x₂ hx.2⟩,
    ⟨float_le_trans hy.1 y₁, float_le_trans y₂ hy.2⟩, ⟨float_le_trans hz.1 z₁, float_le_trans z₂ hz.2⟩⟩

end CsgPreview.Geometry.Box

namespace CsgPreview.Pipeline

open Std.Do CsgPreview.Geometry Scene Cache Csg

set_option mvcgen.warning false

variable {G : Type}

theorem renderNode_succeeds (K : SolidKernel G) (t : SceneTree) (fuel : Nat) :
    ∀ i, ⦃fun r _ => ⌜r.cancel = {}⌝⦄ renderNode K t fuel i
      ⦃post⟨fun _ r _ => ⌜r.cancel = {} ∧ True⌝, fun _ _ _ => ⌜False⌝⟩⦄ := by
  induction fuel with
  | zero =>
    intro i
    mvcgen [renderNode]
  | succ fuel ih =>
    intro i
    mvcgen [renderNode, ih, advance, renderCheckpoint, triple_logged] invariants
    · post⟨fun _ r _ => ⌜r.cancel = {}⌝, fun _ _ _ => ⌜False⌝⟩
    all_goals simp_all +zetaDelta

theorem renderTree_settles {I : PointReading} {t : SceneTree} (wf : t.WellFormed)
    (hu : t.Unambiguous) :
    Settles (fun r : Rendering (Set Vec3) => ExactCache I t r.cache ∧ r.cancel = {})
      (renderTree (setKernel I) t) (· = t.solidAt I t.root) := by
  refine Settles.of_keeps (Settles.of_triple ?_) (renderTree_solid wf hu)
  have root := renderNode_succeeds (setKernel I) t (t.nodes.size + 1) t.root
  mvcgen [renderTree, root, triple_logged]

/-- The preview and the exact render stand for the same set. Read every primitive as a set of
points and every matrix, lawfully, as a map of points, and take a well-formed, unambiguous tree
with no highlighted node, whose transforms move points one to one and whose placed leaves lie in
their boxes. When the preview keeps no term for a drawn subtree that stands for nothing, an
evaluation from caches that serve the tree and an exact render from an empty exact cache both
finish, and the main term of the first stands for the set the second gives. -/
theorem preview_denotes_exact_render {I : PointReading} {t : SceneTree} (wf : t.WellFormed)
    (hu : t.Unambiguous) (lawful : I.Lawful) (reading : t.PreviewReading I)
    (prunes : t.PrunesEmpty I) {w : Walk} (serves : w.Serves t) (log : Array LogRecord)
    {r : Rendering (Set Vec3)} (fresh : r.cache.entries = []) (uncancelled : r.cancel = {})
    (log' : Array LogRecord) :
    ∃ ev w', (((evaluate t).run.run w).run log).run.1 = (.ok ev, w') ∧
      ∃ g r', (((renderTree (setKernel I) t).run.run r).run log').run.1 = (.ok g, r') ∧
        optDenote (t.leafSet I) ev.primary = g.getD ∅ := by
  obtain ⟨ev, w', evaluated, -, primary⟩ := evaluate_settles hu w log serves
  obtain ⟨g, r', rendered, -, exact⟩ :=
    renderTree_settles wf hu r log' ⟨exactCache_of_entries_nil fresh, uncancelled⟩
  refine ⟨ev, w', evaluated, g, r', rendered, ?_⟩
  rw [primary, exact]
  exact SceneTree.previewTermAt_root_denote wf lawful reading prunes

/-! ### A carved cube, and a cube subtracted from itself -/

theorem unambiguous_of_keys_apart {t : SceneTree}
    (keys : ∀ i < t.nodes.size, ∀ j < t.nodes.size, t.key i = t.key j → i = j)
    (described : ∀ i < t.nodes.size, ∀ j < t.nodes.size, ∀ p q : Primitive,
      (t.node i).kind = .primitive p → (t.node j).kind = .primitive q → p.describe = q.describe →
        p = q) : t.Unambiguous where
  key_eq i hi j hj same := by
    obtain rfl := keys i hi j hj same
    exact ⟨rfl, List.forall₂_same.mpr fun _ _ => rfl⟩
  describe_eq := described

theorem unambiguous_of_lines_apart {t : SceneTree} (wf : t.WellFormed) (computed : t.KeysComputed)
    (lines : ∀ i < t.nodes.size, ∀ j < t.nodes.size,
      (t.node i).kind.describe = (t.node j).kind.describe → i = j) : t.Unambiguous :=
  unambiguous_of_keys_apart
    (fun i hi j hj same =>
      lines i hi j hj (SceneTree.describe_eq_of_key_eq wf wf computed computed hi hj same))
    fun i hi j hj p q hp hq same => by
      obtain rfl := lines i hi j hj (by rw [hp, hq]; exact same)
      exact NodeKind.primitive.inj (hp.symm.trans hq)

theorem placed_identity {t : SceneTree}
    (identity : ∀ i m, (t.node i).kind = .transform m → m = Mat4.identity) {i : Nat}
    {matrix : Mat4} (placed : t.Placed i matrix) : matrix = Mat4.identity := by
  induction placed with
  | root => rfl
  | @child i c matrix _ _ _ ih =>
    subst ih
    unfold placement
    split
    next m transform =>
      rw [identity i m transform]
      rfl
    all_goals rfl

def unitCube : Primitive := .cube ⟨1, 1, 1⟩ false

def primitiveNode (index : Nat) (p : Primitive) : SceneNode :=
  ⟨index, .primitive p, {}, [], index + 1, 0⟩

noncomputable def boxReading : PointReading where
  shape p := p.previewShape.box.points
  act _ := id

theorem boxReading_lawful : boxReading.Lawful := ⟨rfl, fun _ _ => rfl⟩

theorem origin_mem_unitCube : (⟨0, 0, 0⟩ : Vec3) ∈ boxReading.shape unitCube := by
  refine ⟨⟨?_, ?_⟩, ⟨?_, ?_⟩, ⟨?_, ?_⟩⟩ <;> decide +kernel

theorem unitCube_box :
    unitCube.previewShape.box.points ⊆
        (unitCube.previewShape.box.transformed Mat4.identity).points ∧
      (unitCube.previewShape.isEmpty = true → unitCube.previewShape.box.isEmpty = true) :=
  ⟨Box.points_subset (by decide +kernel) (by decide +kernel) (by decide +kernel),
    fun empty => absurd empty (by decide +kernel)⟩

theorem boxReading_previewReading {t : SceneTree}
    (noHighlight : ∀ i < t.nodes.size, (t.node i).modifiers.highlight = false)
    (identity : ∀ i m, (t.node i).kind = .transform m → m = Mat4.identity)
    (boxes : ∀ i p, (t.node i).kind = .primitive p →
      p.previewShape.box.points ⊆ (p.previewShape.box.transformed Mat4.identity).points ∧
        (p.previewShape.isEmpty = true → p.previewShape.box.isEmpty = true)) :
    t.PreviewReading boxReading where
  no_highlight := noHighlight
  injective _ _ _ _ := Function.injective_id
  in_box i matrix p placed hp := by
    obtain rfl := placed_identity identity placed
    rw [show boxReading.act Mat4.identity = id from rfl, Set.image_id]
    exact (boxes i p hp).1
  empty_of_isEmpty i p hp empty :=
    Set.eq_empty_of_forall_notMem fun _ mem =>
      absurd ((boxes i p hp).2 empty) (by simp [Box.isEmpty_eq_false_of_mem mem])

def freshWalk : Walk where
  cache := LruCache.create "preview" 0
  tessellations := {}
  progress := Progress.start 0

def freshRendering : Rendering (Set Vec3) where
  cache := LruCache.create "exact" 0
  tessellations := {}
  total := 1

/-- The tree of `union() { difference() { cube(2); cube(1); } cube(0); multmatrix(M)
cube(1, center = true); }`, with `M` the identity. -/
def carvedTree : SceneTree :=
  let nodes : Array SceneNode :=
    #[⟨0, .union, {}, [1, 4, 5], 7, 0⟩, ⟨1, .difference, {}, [2, 3], 4, 8⟩,
      primitiveNode 2 (.cube ⟨2, 2, 2⟩ false), primitiveNode 3 unitCube,
      primitiveNode 4 (.cube ⟨0, 0, 0⟩ false), ⟨5, .transform Mat4.identity, {}, [6], 7, 50⟩,
      primitiveNode 6 (.cube ⟨1, 1, 1⟩ true)]
  ⟨nodes, 0, subtreeKeys nodes⟩

theorem carvedTree_wellFormed : carvedTree.WellFormed := by decide

theorem carvedTree_unambiguous : carvedTree.Unambiguous :=
  unambiguous_of_lines_apart carvedTree_wellFormed rfl (by decide +kernel)

theorem carvedTree_transform {i : Nat} {m : Mat4} (h : (carvedTree.node i).kind = .transform m) :
    m = Mat4.identity := by
  have hi : i < 7 := by
    by_contra out
    rw [SceneTree.node, getElem!_neg carvedTree.nodes i out] at h
    cases h
  interval_cases i <;> cases h
  rfl

theorem carvedTree_boxes {i : Nat} {p : Primitive} (h : (carvedTree.node i).kind = .primitive p) :
    p.previewShape.box.points ⊆ (p.previewShape.box.transformed Mat4.identity).points ∧
      (p.previewShape.isEmpty = true → p.previewShape.box.isEmpty = true) := by
  have hi : i < 7 := SceneTree.lt_of_kind_eq_primitive h
  interval_cases i <;> cases h
  · exact ⟨Box.points_subset (by decide +kernel) (by decide +kernel) (by decide +kernel),
      fun empty => absurd empty (by decide +kernel)⟩
  · exact unitCube_box
  · -- the box of `cube(0)` holds no point
    have empty : (Primitive.cube ⟨0, 0, 0⟩ false).previewShape.box.isEmpty = true := by
      decide +kernel
    exact ⟨fun _ mem => absurd (Box.isEmpty_eq_false_of_mem mem) (by simp [empty]),
      fun _ => empty⟩
  · exact ⟨Box.points_subset (by decide +kernel) (by decide +kernel) (by decide +kernel),
      fun empty => absurd empty (by decide +kernel)⟩

theorem carvedTree_prunesEmpty : carvedTree.PrunesEmpty boxReading := by
  have wf := carvedTree_wellFormed
  have rendered (k : Nat) (hk : k < 7) : carvedTree.Rendered k := by
    interval_cases k <;> exact ⟨rfl, rfl⟩
  have cube (k : Nat) (hk : k < 7) {p : Primitive} (hp : (carvedTree.node k).kind = .primitive p)
      {x : Vec3} (mem : x ∈ boxReading.shape p) :
      carvedTree.solidAt boxReading k = some (boxReading.shape p) := by
    rw [SceneTree.solidAt_primitive wf hk (rendered k hk) hp]
    exact ifNonempty_of_nonempty ⟨x, mem⟩
  have corner : (⟨1.5, 1.5, 1.5⟩ : Vec3) ∈ boxReading.shape (.cube ⟨2, 2, 2⟩ false) := by
    refine ⟨⟨?_, ?_⟩, ⟨?_, ?_⟩, ⟨?_, ?_⟩⟩ <;> decide +kernel
  have carved : (⟨1.5, 1.5, 1.5⟩ : Vec3) ∉ boxReading.shape unitCube := fun mem =>
    absurd mem.1.2 (by decide +kernel)
  have kept : (boxReading.shape (.cube ⟨2, 2, 2⟩ false) \ boxReading.shape unitCube).Nonempty :=
    ⟨_, corner, carved⟩
  have centered : (⟨0, 0, 0⟩ : Vec3) ∈ boxReading.shape (.cube ⟨1, 1, 1⟩ true) := by
    refine ⟨⟨?_, ?_⟩, ⟨?_, ?_⟩, ⟨?_, ?_⟩⟩ <;> decide +kernel
  have empty : carvedTree.solidAt boxReading 4 = none := by
    rw [SceneTree.solidAt_primitive wf (by decide) (rendered 4 (by decide)) rfl,
      ifNonempty_eq_none_iff]
    exact (boxReading_previewReading (t := carvedTree) (by decide) (fun _ _ => carvedTree_transform)
      fun _ _ => carvedTree_boxes).empty_of_isEmpty 4 _ rfl (by decide +kernel)
  have difference : carvedTree.solidAt boxReading 1 = some
      (boxReading.shape (.cube ⟨2, 2, 2⟩ false) \ boxReading.shape unitCube) := by
    rw [SceneTree.solidAt_combine wf (by decide) (rendered 1 (by decide)) fun _ h => by cases h]
    simp only [show carvedTree.node 1 = ⟨1, .difference, {}, [2, 3], 4, 8⟩ from rfl,
      List.filterMap_cons, cube 2 (by decide) rfl corner, cube 3 (by decide) rfl origin_mem_unitCube,
      List.filterMap_nil, PointReading.combine, NodeKind.combineOp, foldOperands, List.foldl_cons,
      List.foldl_nil, BooleanOp.onSets]
    exact ifNonempty_of_nonempty kept
  have transform : (carvedTree.solidAt boxReading 5).isSome := by
    rw [SceneTree.solidAt_combine wf (by decide) (rendered 5 (by decide)) fun _ h => by cases h]
    simp [show carvedTree.node 5 = ⟨5, .transform Mat4.identity, {}, [6], 7, 50⟩ from rfl,
      cube 6 (by decide) rfl centered, PointReading.combine, foldOperands,
      ifNonempty_of_nonempty ⟨_, centered⟩]
  intro i matrix color placed term
  have hi : i < 7 := placed.lt_size wf
  interval_cases i
  · -- the union holds the carved cube
    obtain ⟨X, five⟩ := Option.isSome_iff_exists.mp transform
    rw [SceneTree.solidAt_combine wf (by decide) (rendered 0 (by decide)) fun _ h => by cases h]
    simp only [show carvedTree.node 0 = ⟨0, .union, {}, [1, 4, 5], 7, 0⟩ from rfl, difference,
      empty, five, List.filterMap_cons, List.filterMap_nil, PointReading.combine,
      NodeKind.combineOp, foldOperands, List.foldl_cons, List.foldl_nil, BooleanOp.onSets]
    rw [ifNonempty_of_nonempty kept.inl]
    rfl
  · simp [difference]
  · simp [cube 2 (by decide) rfl corner]
  · simp [cube 3 (by decide) rfl origin_mem_unitCube]
  · -- the preview drops the empty cube, so it gives no term
    rw [SceneTree.previewTermAt, show carvedTree.nodes.size = 7 from rfl,
      SceneTree.previewTerm_succ_primitive (rendered 4 (by decide)) rfl rfl] at term
    simp [Term.ofLeaf, show (Primitive.cube ⟨0, 0, 0⟩ false).previewShape.isEmpty = true by
      decide +kernel] at term
  · exact transform
  · simp [cube 6 (by decide) rfl centered]

/-- The preview and the exact render of the carved tree stand for the same set, the cube of side
2 less the unit cube together with the centered unit cube; both drop the empty cube. -/
theorem preview_denotes_exact_render_carved :
    carvedTree.WellFormed ∧ carvedTree.Unambiguous ∧ boxReading.Lawful ∧
      carvedTree.PreviewReading boxReading ∧ carvedTree.PrunesEmpty boxReading ∧
      freshWalk.Serves carvedTree ∧ freshRendering.cache.entries = [] ∧
      ∃ ev w', (((evaluate carvedTree).run.run freshWalk).run #[]).run.1 = (.ok ev, w') ∧
        ∃ g r', (((renderTree (setKernel boxReading) carvedTree).run.run
            freshRendering).run #[]).run.1 = (.ok g, r') ∧
          optDenote (carvedTree.leafSet boxReading) ev.primary = g.getD ∅ := by
  have reading : carvedTree.PreviewReading boxReading :=
    boxReading_previewReading (by decide) (fun _ _ => carvedTree_transform)
      fun _ _ => carvedTree_boxes
  have serves : freshWalk.Serves carvedTree := Walk.serves_of_empty rfl rfl rfl
  exact ⟨carvedTree_wellFormed, carvedTree_unambiguous, boxReading_lawful, reading,
    carvedTree_prunesEmpty, serves, rfl,
    preview_denotes_exact_render carvedTree_wellFormed carvedTree_unambiguous boxReading_lawful
      reading carvedTree_prunesEmpty serves #[] rfl rfl #[]⟩

def emptyMinuendTree : SceneTree where
  nodes := #[⟨0, .difference, {}, [1, 4], 5, 0⟩, ⟨1, .difference, {}, [2, 3], 4, 0⟩,
    primitiveNode 2 unitCube, primitiveNode 3 unitCube, primitiveNode 4 unitCube]
  root := 0
  keys := #["difference 0", "difference 1", "cube 2", "cube 3", "cube 4"]

theorem emptyMinuendTree_primitive {i : Nat} {p : Primitive}
    (h : (emptyMinuendTree.node i).kind = .primitive p) : p = unitCube := by
  have hi := SceneTree.lt_of_kind_eq_primitive h
  simp only [emptyMinuendTree, List.size_toArray, List.length_cons, List.length_nil] at hi
  interval_cases i <;> cases h <;> rfl

theorem emptyMinuendTree_wellFormed : emptyMinuendTree.WellFormed := by decide

theorem emptyMinuendTree_unambiguous : emptyMinuendTree.Unambiguous :=
  unambiguous_of_keys_apart (by decide) fun _ _ _ _ _ _ hp hq _ =>
    (emptyMinuendTree_primitive hp).trans (emptyMinuendTree_primitive hq).symm

def cubeLeaf (k : Nat) : Term :=
  .leaf ⟨unitCube.previewShape, Mat4.identity, none, leafLabel (emptyMinuendTree.key k), k⟩
    (unitCube.previewShape.box.transformed Mat4.identity) {}

theorem emptyMinuendTree_cube {k : Nat}
    (hk : (emptyMinuendTree.node k).kind = .primitive unitCube) (fuel : Nat) :
    emptyMinuendTree.previewTerm (fuel + 1) k Mat4.identity none = some (cubeLeaf k) := by
  have hi := SceneTree.lt_of_kind_eq_primitive hk
  simp only [emptyMinuendTree, List.size_toArray, List.length_cons, List.length_nil] at hi
  have hr : emptyMinuendTree.Rendered k := by interval_cases k <;> exact ⟨rfl, rfl⟩
  have hl : (emptyMinuendTree.node k).modifiers.highlight = false := by interval_cases k <;> rfl
  have hdrawn : unitCube.previewShape.isEmpty = false := by decide +kernel
  rw [SceneTree.previewTerm_succ_primitive hr hl hk]
  simp [Term.ofLeaf, hdrawn, cubeLeaf]

theorem emptyMinuendTree_preview_empty (I : PointReading) :
    optDenote (emptyMinuendTree.leafSet I) (emptyMinuendTree.previewTermAt 0 Mat4.identity none) =
      ∅ := by
  have hmeet : (unitCube.previewShape.box.transformed Mat4.identity).intersects
      (unitCube.previewShape.box.transformed Mat4.identity) = true := by decide +kernel
  have h0 : emptyMinuendTree.node 0 = ⟨0, .difference, {}, [1, 4], 5, 0⟩ := rfl
  have h1 : emptyMinuendTree.node 1 = ⟨1, .difference, {}, [2, 3], 4, 0⟩ := rfl
  have inner : emptyMinuendTree.previewTerm 5 1 Mat4.identity none =
      some (Term.opNode .difference (cubeLeaf 2) (cubeLeaf 3) {}) := by
    rw [SceneTree.previewTerm_succ_combine ⟨rfl, rfl⟩ rfl (fun _ h => by cases h), h1]
    simp only [placement, NodeKind.combineOp, List.map_cons, List.map_nil,
      emptyMinuendTree_cube (k := 2) rfl, emptyMinuendTree_cube (k := 3) rfl]
    simp [combineTerms, accumulate, Term.combine, Term.combineFlagged, cubeLeaf, Term.box, hmeet]
  have hsize : emptyMinuendTree.nodes.size = 5 := rfl
  rw [SceneTree.previewTermAt, hsize,
    SceneTree.previewTerm_succ_combine ⟨rfl, rfl⟩ rfl (fun _ h => by cases h), h0]
  simp only [placement, NodeKind.combineOp, List.map_cons, List.map_nil, inner,
    emptyMinuendTree_cube (k := 4) rfl]
  have same : ∀ k, (emptyMinuendTree.node k).kind = .primitive unitCube →
      emptyMinuendTree.leafSet I
          ⟨unitCube.previewShape, Mat4.identity, none, leafLabel (emptyMinuendTree.key k), k⟩ =
        I.act Mat4.identity '' I.shape unitCube := fun _ hk => SceneTree.leafSet_of_primitive hk
  simp [combineTerms, accumulate, Term.combine, Term.combineFlagged, cubeLeaf, Term.box,
    Term.opNode, hmeet, BooleanOp.onSets, Term.denote, same 2 rfl, same 3 rfl]

theorem emptyMinuendTree_solidAt (I : PointReading) :
    emptyMinuendTree.solidAt I 0 = ifNonempty (I.shape unitCube) := by
  have wf := emptyMinuendTree_wellFormed
  have h0 : emptyMinuendTree.node 0 = ⟨0, .difference, {}, [1, 4], 5, 0⟩ := rfl
  have h1 : emptyMinuendTree.node 1 = ⟨1, .difference, {}, [2, 3], 4, 0⟩ := rfl
  have cube : ∀ k < emptyMinuendTree.nodes.size, emptyMinuendTree.Rendered k →
      (emptyMinuendTree.node k).kind = .primitive unitCube →
      emptyMinuendTree.solidAt I k = ifNonempty (I.shape unitCube) :=
    fun _ hi hr hk => SceneTree.solidAt_primitive wf hi hr hk
  have c2 := cube 2 (by decide) ⟨rfl, rfl⟩ rfl
  have c3 := cube 3 (by decide) ⟨rfl, rfl⟩ rfl
  have c4 := cube 4 (by decide) ⟨rfl, rfl⟩ rfl
  have inner : emptyMinuendTree.solidAt I 1 =
      foldOperands .difference ([2, 3].filterMap (emptyMinuendTree.solidAt I)) := by
    rw [SceneTree.solidAt_combine wf (by decide) ⟨rfl, rfl⟩ (fun _ h => by cases h), h1]
    rfl
  rw [SceneTree.solidAt_combine wf (by decide) ⟨rfl, rfl⟩ (fun _ h => by cases h), h0]
  by_cases hX : I.shape unitCube = ∅
  · simp [hX, inner, c2, c3, c4, PointReading.combine, foldOperands, ifNonempty]
  · simp [hX, inner, c2, c3, c4, PointReading.combine, foldOperands, ifNonempty,
      NodeKind.combineOp, BooleanOp.onSets]

theorem emptyMinuendTree_runs (I : PointReading) :
    (∃ ev w', (((evaluate emptyMinuendTree).run.run freshWalk).run #[]).run.1 = (.ok ev, w') ∧
      optDenote (emptyMinuendTree.leafSet I) ev.primary = ∅) ∧
    ∃ g r', (((renderTree (setKernel I) emptyMinuendTree).run.run freshRendering).run
        #[]).run.1 = (.ok g, r') ∧ g = ifNonempty (I.shape unitCube) := by
  have wf := emptyMinuendTree_wellFormed
  have hu := emptyMinuendTree_unambiguous
  obtain ⟨ev, w', evaluated, -, primary⟩ :=
    Csg.evaluate_settles hu freshWalk #[] (Walk.serves_of_empty rfl rfl rfl)
  obtain ⟨g, r', rendered, -, exact⟩ :=
    renderTree_settles (I := I) wf hu freshRendering #[] ⟨exactCache_of_entries_nil rfl, rfl⟩
  refine ⟨⟨ev, w', evaluated, ?_⟩, g, r', rendered, ?_⟩
  · rw [primary]
    exact emptyMinuendTree_preview_empty I
  · rw [exact]
    exact emptyMinuendTree_solidAt I

/-- Without the pruning condition the preview and the exact render part. The tree of
`difference() { difference() { cube(1); cube(1); } cube(1); }`, read over the points of the preview
boxes, meets every other condition of the agreement; yet its preview stands for nothing and its
exact render for the points of a cube. -/
theorem preview_and_exact_render_differ_on_empty_minuend :
    emptyMinuendTree.WellFormed ∧ emptyMinuendTree.Unambiguous ∧ boxReading.Lawful ∧
      emptyMinuendTree.PreviewReading boxReading ∧
      ∃ ev w', (((evaluate emptyMinuendTree).run.run freshWalk).run #[]).run.1 =
          (.ok ev, w') ∧
        ∃ g r', (((renderTree (setKernel boxReading) emptyMinuendTree).run.run
            freshRendering).run #[]).run.1 = (.ok g, r') ∧
          optDenote (emptyMinuendTree.leafSet boxReading) ev.primary = ∅ ∧ (g.getD ∅).Nonempty := by
  have reading : emptyMinuendTree.PreviewReading boxReading :=
    boxReading_previewReading (by decide)
      (fun i _ h => by rcases i with _ | _ | _ | _ | _ | i <;> cases h)
      fun _ _ hp => by
        obtain rfl := emptyMinuendTree_primitive hp
        exact unitCube_box
  obtain ⟨⟨ev, w', evaluated, empty⟩, g, r', rendered, cube⟩ := emptyMinuendTree_runs boxReading
  refine ⟨emptyMinuendTree_wellFormed, emptyMinuendTree_unambiguous, boxReading_lawful, reading,
    ev, w', evaluated, g, r', rendered, empty, ?_⟩
  rw [cube, ifNonempty_of_nonempty ⟨_, origin_mem_unitCube⟩]
  exact ⟨_, origin_mem_unitCube⟩

end CsgPreview.Pipeline
