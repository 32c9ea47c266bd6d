import Mathlib
import CsgPreview.Proofs.Scene.SubtreeKeys
import CsgPreview.Proofs.Pipeline.ExactRender
import CsgPreview.Proofs.Pipeline.FaithfulCaches

/-!
The exact cache under subtree keys.

The exact render looks every drawn node up under its subtree key and stores what it computes
there, so one cache serves the renders of many trees. Under a kernel whose results depend only
on what it is asked (`SolidKernel.Deterministic`), the geometry of a drawn node is a function of
its role and of its drawn children's geometry (`SolidKernel.exactAt`). Where the keys of the
trees decode (`KeysDecode`: digests that tell the hashed texts apart, numbers that print apart),
drawn nodes with equal keys have equal geometry, in one tree or in two. So every entry of the
cache is the geometry of every drawn node with its key (`ExactKeyed`); the empty cache is such a
cache, every render, eviction and flush keeps it one, and from such a cache the render of a node
returns its geometry or, only when a cancel comes, fails.
-/

namespace CsgPreview.Pipeline

open Std.Do CsgPreview.Geometry CsgPreview.Decimal Scene Cache

set_option mvcgen.warning false

variable {G : Type}

namespace SolidKernel

variable (K : SolidKernel G)

/-- A kernel whose results depend only on what it is asked: the geometry of a primitive not on
the tessellations at hand, a combination not on what was logged before it. -/
structure Deterministic : Prop where
  primitive : ∀ tessellations p, (K.primitive tessellations p).2 = (K.primitive {} p).2
  combine : ∀ op operands log, ((K.combine op operands) log).run.1 = ((K.combine op operands) #[]).run.1

/-- The geometry a node of a given role makes of its operands, before the test for empty: a
primitive's own geometry, the union of the operands moved by a transform, or the operands
combined by a boolean operation. -/
def roleGeometry : NodeRole → List G → Option G
  | .primitive p, _ => some (K.primitive {} p).2
  | .transform m, operands => ((K.combine .union operands) #[]).run.1.map (K.transform · m)
  | .combine op, operands => ((K.combine op operands) #[]).run.1

/-- The geometry of a subtree with no cache, none when it is empty or left out; `fuel` bounds
the depth. -/
def exactValue (t : SceneTree) : Nat → Nat → Option G
  | 0, _ => none
  | fuel + 1, i =>
    let n := t.node i
    if n.modifiers.disabled || n.modifiers.background then none
    else (K.roleGeometry n.kind.role (n.children.filterMap (exactValue t fuel))).filter
      fun g => !K.isEmpty g

def exactAt (t : SceneTree) (i : Nat) : Option G := K.exactValue t (t.nodes.size + 1) i

variable {K}

theorem combineOperands_run (det : K.Deterministic) {kind : NodeKind}
    (hk : ∀ p, ¬kind = .primitive p) (operands : List G) (log : Array LogRecord) :
    (combineOperands K kind operands log).run.1 = K.roleGeometry kind.role operands := by
  cases kind
  case primitive p => exact absurd rfl (hk p)
  case transform m =>
    show ((K.combine .union operands) log).run.1.map (K.transform · m) = _
    rw [det.combine]
    rfl
  all_goals exact det.combine _ _ log

theorem roleGeometry_of_isLeaf {kind : NodeKind} (leaf : kind.isLeaf = true) (xs ys : List G) :
    K.roleGeometry kind.role xs = K.roleGeometry kind.role ys := by
  cases kind <;> simp only [NodeKind.isLeaf, Bool.false_eq_true] at leaf
  rfl

/-! ### The geometry of a subtree -/

section Values

variable {t t' : SceneTree}

theorem exactValue_of_not_rendered {i : Nat} (h : ¬t.Rendered i) (fuel : Nat) :
    K.exactValue t fuel i = none := by
  cases fuel with
  | zero => rfl
  | succ fuel =>
    rw [SceneTree.rendered_iff, Bool.not_eq_false] at h
    simp [exactValue, h]

theorem exactValue_succ_of_rendered {i : Nat} (h : t.Rendered i) (fuel : Nat) :
    K.exactValue t (fuel + 1) i =
      (K.roleGeometry (t.node i).kind.role
        ((t.renderedChildren i).filterMap (K.exactValue t fuel))).filter fun g => !K.isEmpty g := by
  rw [← SceneTree.filterMap_children_eq fun _ hc => exactValue_of_not_rendered hc fuel]
  rw [SceneTree.rendered_iff] at h
  simp only [exactValue, h, Bool.false_eq_true, ↓reduceIte]

theorem exactValue_fuel_eq (wf : t.WellFormed) {fuel fuel' i : Nat} (hi : i < t.nodes.size)
    (hfuel : t.nodes.size - i ≤ fuel) (hfuel' : t.nodes.size - i ≤ fuel') :
    K.exactValue t fuel i = K.exactValue t fuel' i := by
  induction fuel generalizing fuel' i with
  | zero => omega
  | succ fuel ih =>
    obtain ⟨fuel', rfl⟩ : ∃ f, fuel' = f + 1 := ⟨fuel' - 1, by omega⟩
    by_cases hr : t.Rendered i
    · -- every child lies after its parent, so it needs one step of fuel less
      have children : (t.renderedChildren i).filterMap (K.exactValue t fuel) =
          (t.renderedChildren i).filterMap (K.exactValue t fuel') := by
        refine List.filterMap_congr fun c mem => ?_
        have hc := SceneTree.lt_of_mem_renderedChildren wf hi mem
        have after := wf.parent_lt_child i hi c (List.mem_of_mem_filter mem)
        exact ih hc (by omega) (by omega)
      rw [exactValue_succ_of_rendered hr, exactValue_succ_of_rendered hr, children]
    · rw [exactValue_of_not_rendered hr, exactValue_of_not_rendered hr]

theorem exactValue_eq_exactAt (wf : t.WellFormed) {fuel i : Nat} (hi : i < t.nodes.size)
    (hfuel : t.nodes.size - i ≤ fuel) : K.exactValue t fuel i = K.exactAt t i :=
  exactValue_fuel_eq wf hi hfuel (by omega)

section Keys

variable {ts : List SceneTree} (decode : KeysDecode ts) (ht : t ∈ ts) (ht' : t' ∈ ts)
  (wf : t.WellFormed) (wf' : t'.WellFormed) (computed : t.KeysComputed)
  (computed' : t'.KeysComputed)
include decode ht ht' wf wf' computed computed'

theorem exactValue_eq_of_key_eq (fuel : Nat) :
    ∀ i j, i < t.nodes.size → j < t'.nodes.size → t.Rendered i → t'.Rendered j →
      t.key i = t'.key j → K.exactValue t fuel i = K.exactValue t' fuel j := by
  induction fuel with
  | zero => intros; rfl
  | succ fuel ih =>
    intro i j hi hj ri rj same
    obtain ⟨role, children⟩ := decode.role_eq ht ht' wf wf' computed computed' hi hj ri rj same
    rw [exactValue_succ_of_rendered ri, exactValue_succ_of_rendered rj, ← role]
    cases leaf : (t.node i).kind.isLeaf
    case true => rw [roleGeometry_of_isLeaf leaf]
    case false =>
      rw [SceneTree.filterMap_eq_filterMap_of_forall₂ (children leaf) fun a b ha hb hab =>
        ih a b (SceneTree.lt_of_mem_renderedChildren wf hi ha)
          (SceneTree.lt_of_mem_renderedChildren wf' hj hb)
          (SceneTree.rendered_of_mem_renderedChildren ha)
          (SceneTree.rendered_of_mem_renderedChildren hb) hab]

theorem exactAt_eq_of_key_eq {i j : Nat} (hi : i < t.nodes.size) (hj : j < t'.nodes.size)
    (ri : t.Rendered i) (rj : t'.Rendered j) (same : t.key i = t'.key j) :
    K.exactAt t i = K.exactAt t' j := by
  calc K.exactAt t i
      = K.exactValue t (max t.nodes.size t'.nodes.size + 1) i :=
        (exactValue_eq_exactAt wf hi (by omega)).symm
    _ = K.exactValue t' (max t.nodes.size t'.nodes.size + 1) j :=
        exactValue_eq_of_key_eq decode ht ht' wf wf' computed computed' _ i j hi hj ri rj same
    _ = K.exactAt t' j := exactValue_eq_exactAt wf' hj (by omega)

end Keys

end Values

end SolidKernel

/-- Trees whose keys tell their drawn nodes apart: laid out in pre-order, with their keys
computed, and with keys that decode. -/
structure KeyedTrees (ts : List SceneTree) : Prop where
  wellFormed : ∀ t ∈ ts, t.WellFormed
  computed : ∀ t ∈ ts, t.KeysComputed
  decode : KeysDecode ts

/-- Every entry of the exact cache is the geometry of each drawn node with its key, in every
tree of `ts`. -/
def ExactKeyed (K : SolidKernel G) (ts : List SceneTree) (c : LruCache G) : Prop :=
  c.Holds fun k g => ∀ t ∈ ts, ∀ i < t.nodes.size, t.Rendered i → t.key i = k →
    K.exactAt t i = some g

section Cache

variable {K : SolidKernel G} {ts : List SceneTree} {c : LruCache G} {t : SceneTree}

theorem KeyedTrees.exactAt_eq (keyed : KeyedTrees ts) {t t' : SceneTree} (ht : t ∈ ts)
    (ht' : t' ∈ ts) {i j : Nat} (hi : i < t.nodes.size) (hj : j < t'.nodes.size)
    (ri : t.Rendered i) (rj : t'.Rendered j) (same : t.key i = t'.key j) :
    K.exactAt t i = K.exactAt t' j :=
  SolidKernel.exactAt_eq_of_key_eq keyed.decode ht ht' (keyed.wellFormed t ht)
    (keyed.wellFormed t' ht') (keyed.computed t ht) (keyed.computed t' ht') hi hj ri rj same

theorem exactKeyed_create (name : String) (max : Nat) :
    ExactKeyed K ts (LruCache.create name max) := by
  intro e mem
  simp [LruCache.create] at mem

theorem ExactKeyed.get (hc : ExactKeyed K ts c) (key : String) :
    ExactKeyed K ts (c.get key).1 :=
  LruCache.Holds.get hc key

theorem exactAt_of_hit (hc : ExactKeyed K ts c) (ht : t ∈ ts) {i : Nat}
    (hi : i < t.nodes.size) (hr : t.Rendered i) {g : G} (hit : (c.get (t.key i)).2 = some g) :
    K.exactAt t i = some g :=
  LruCache.good_of_get hc hit t ht i hi hr rfl

theorem ExactKeyed.insert (keyed : KeyedTrees ts) (hc : ExactKeyed K ts c) (ht : t ∈ ts)
    {i : Nat} (hi : i < t.nodes.size) (hr : t.Rendered i) {g : G} (hg : K.exactAt t i = some g)
    (weight : Nat) (log : Array LogRecord) :
    ExactKeyed K ts ((c.insert (t.key i) g weight) log).run.1 :=
  LruCache.Holds.insert hc
    (fun _ ht' _ hj rj same => (keyed.exactAt_eq ht' ht hj hi rj hr same).trans hg) weight log

theorem ExactKeyed.setMax (hc : ExactKeyed K ts c) (max : Nat) (log : Array LogRecord) :
    ExactKeyed K ts ((c.setMax max) log).run.1 :=
  LruCache.Holds.evictToBudget_go _ log (hc.of_subset fun _ mem => mem)

theorem exactKeyed_clear (c : LruCache G) : ExactKeyed K ts c.clear := by
  intro e mem
  simp [LruCache.clear] at mem

end Cache

/-! ### The render from a keyed cache -/

section Outcomes

variable {K : SolidKernel G} {t : SceneTree} {i : Nat}

theorem exactAt_of_not_rendered
    (h : (t.node i).modifiers.disabled = true ∨ (t.node i).modifiers.background = true) :
    K.exactAt t i = none :=
  SolidKernel.exactValue_of_not_rendered (by rintro ⟨hd, hb⟩; simp_all) _

variable (wf : t.WellFormed) (hi : i < t.nodes.size) (hr : t.Rendered i)
include wf hi hr

theorem exactAt_of_rendered :
    K.exactAt t i = (K.roleGeometry (t.node i).kind.role
      ((t.node i).children.filterMap (K.exactAt t))).filter fun g => !K.isEmpty g := by
  have children : (t.renderedChildren i).filterMap (K.exactValue t t.nodes.size) =
      (t.node i).children.filterMap (K.exactAt t) := by
    rw [SceneTree.filterMap_children_eq (f := K.exactAt t) fun _ hc =>
      SolidKernel.exactValue_of_not_rendered hc _]
    exact List.filterMap_congr fun c mem => SolidKernel.exactValue_eq_exactAt wf
      (SceneTree.lt_of_mem_renderedChildren wf hi mem) (by omega)
  rw [SolidKernel.exactAt, SolidKernel.exactValue_succ_of_rendered hr, children]

variable (det : K.Deterministic)
include det

theorem exactAt_primitive {p : Primitive} (hk : (t.node i).kind = .primitive p)
    (tessellations : Tessellations) :
    K.exactAt t i = (some (K.primitive tessellations p).2).filter fun g => !K.isEmpty g := by
  rw [exactAt_of_rendered wf hi hr, hk, det.primitive]
  rfl

theorem exactAt_combine {kind : NodeKind} (hkind : (t.node i).kind = kind)
    (hk : ∀ p, ¬kind = .primitive p) (log : Array LogRecord) :
    K.exactAt t i = ((combineOperands K kind ((t.node i).children.filterMap (K.exactAt t)))
      log).run.1.filter fun g => !K.isEmpty g := by
  rw [exactAt_of_rendered wf hi hr, hkind, SolidKernel.combineOperands_run det hk]

theorem primitive_dropped {p : Primitive} (hk : (t.node i).kind = .primitive p)
    {tessellations : Tessellations} (empty : K.isEmpty (K.primitive tessellations p).2 = true) :
    none = K.exactAt t i := by
  simp [exactAt_primitive wf hi hr det hk tessellations, Option.filter, empty]

theorem combined_dropped {kind : NodeKind} (hkind : (t.node i).kind = kind)
    (hk : ∀ p, ¬kind = .primitive p) {log : Array LogRecord} {geometry : Option G}
    (hg : ((combineOperands K kind ((t.node i).children.filterMap (K.exactAt t))) log).run.1 =
      geometry)
    (empty : ∀ g, geometry = some g → K.isEmpty g = true) :
    none = K.exactAt t i := by
  rw [exactAt_combine wf hi hr det hkind hk log, hg]
  cases geometry with
  | none => rfl
  | some g => simp [Option.filter, empty g rfl]

end Outcomes

section Render

variable {K : SolidKernel G} {ts : List SceneTree} {t : SceneTree} {c : LruCache G} {i : Nat}

theorem kept_exactAt (keyed : KeyedTrees ts) (ht : t ∈ ts) (hc : ExactKeyed K ts c)
    (hi : i < t.nodes.size) (hr : t.Rendered i) {geometry : Option G} {g : G}
    (hat : K.exactAt t i = geometry.filter fun g => !K.isEmpty g) (hg : geometry = some g)
    (kept : K.isEmpty g = false) (weight : Nat) (log : Array LogRecord) :
    some g = K.exactAt t i ∧ ExactKeyed K ts ((c.insert (t.key i) g weight) log).run.1 := by
  have hat' : K.exactAt t i = some g := by simp [hat, hg, Option.filter, kept]
  exact ⟨hat'.symm, hc.insert keyed ht hi hr hat' weight log⟩

theorem renderNode_exactAt (det : K.Deterministic) (keyed : KeyedTrees ts) (ht : t ∈ ts)
    (comes : Bool) (fuel : Nat) :
    ∀ i, ⦃fun r _ => ⌜i < t.nodes.size ∧ t.nodes.size - i ≤ fuel ∧ ExactKeyed K ts r.cache ∧
        r.cancel.arrival.isSome = comes⌝⦄
      renderNode K t fuel i
      ⦃post⟨fun g r _ => ⌜g = K.exactAt t i ∧ ExactKeyed K ts r.cache ∧
          r.cancel.arrival.isSome = comes⌝,
        fun e r _ => ⌜e = .cancelled ∧ comes = true ∧ ExactKeyed K ts r.cache⌝⟩⦄ := by
  induction fuel with
  | zero =>
    intro i
    mvcgen [renderNode]
    omega
  | succ fuel ih =>
    intro i
    -- the operands gathered so far are the geometry of the children visited so far
    mvcgen [renderNode, ih, advance, renderCheckpoint, triple_logged] invariants
    · post⟨fun loop r _ => ⌜loop.2.toList = loop.fst.prefix.filterMap (K.exactAt t) ∧
        ExactKeyed K ts r.cache ∧ r.cancel.arrival.isSome = comes⌝,
      fun e r _ => ⌜e = .cancelled ∧ comes = true ∧ ExactKeyed K ts r.cache⌝⟩
    all_goals simp_all +zetaDelta
    case vc1.succ.isTrue =>
      -- a disabled or background node renders to nothing
      exact (exactAt_of_not_rendered ‹_›).symm
    case vc2.succ.isFalse.isTrue =>
      -- the node's checkpoint fails only when a cancel comes
      obtain ⟨-, -, -, arrival⟩ := ‹i < t.nodes.size ∧ _ ∧ _ ∧ _›
      exact arrival.symm.trans (CancelToken.arrival_isSome_of_isCancelled ‹_›)
    case vc3.succ.isFalse.isFalse.h_1 =>
      obtain ⟨hi, -, hc, -⟩ := ‹i < t.nodes.size ∧ _ ∧ ExactKeyed K ts _ ∧ _›
      exact ⟨(exactAt_of_hit hc ht hi ‹_› ‹_›).symm, hc.get _⟩
    case vc4.succ.isFalse.isFalse.h_2.h_1.isTrue =>
      -- the kernel's checkpoint before a primitive
      obtain ⟨-, -, hc, arrival⟩ := ‹i < t.nodes.size ∧ _ ∧ ExactKeyed K ts _ ∧ _›
      have comes' := CancelToken.arrival_isSome_of_isCancelled ‹(_ : CancelToken).isCancelled = true›
      exact ⟨arrival.symm.trans (by simpa using comes'), hc.get _⟩
    case vc5.succ.isFalse.isFalse.h_2.h_1.isFalse.isTrue =>
      obtain ⟨hi, -, hc, -⟩ := ‹i < t.nodes.size ∧ _ ∧ ExactKeyed K ts _ ∧ _›
      exact ⟨primitive_dropped (keyed.wellFormed t ht) hi ‹_› det ‹_› ‹_›, hc.get _⟩
    case vc6.succ.isFalse.isFalse.h_2.h_1.isFalse.isFalse =>
      obtain ⟨hi, -, hc, -⟩ := ‹i < t.nodes.size ∧ _ ∧ ExactKeyed K ts _ ∧ _›
      exact kept_exactAt keyed ht (hc.get _) hi ‹_›
        (exactAt_primitive (keyed.wellFormed t ht) hi ‹_› det ‹_› _) rfl ‹_› _ _
    case vc7.step.pre =>
      obtain ⟨hi, hfuel, -⟩ := ‹i < t.nodes.size ∧ _ ∧ ExactKeyed K ts _ ∧ _›
      exact child_within (keyed.wellFormed t ht) hi hfuel ‹_›
    case vc8.step.post.success.h_1 =>
      simp [← ‹some _ = K.exactAt t _ ∧ _›.1]
    case vc9.step.post.success.h_2 =>
      exact Option.eq_none_iff_forall_ne_some.mpr ‹_›
    case vc11.succ.isFalse.isFalse.h_2.h_2.pre =>
      exact ‹_ ∧ _ ∧ ExactKeyed K ts _ ∧ _›.2.2.1.get _
    case vc12.succ.isFalse.isFalse.h_2.h_2.post.success.isTrue =>
      -- the kernel's checkpoint before the children are combined
      obtain ⟨-, -, arrival⟩ := ‹_ = List.filterMap (K.exactAt t) _ ∧ _ ∧ _›
      exact arrival.symm.trans (CancelToken.arrival_isSome_of_isCancelled ‹_›)
    case vc13.succ.isFalse.isFalse.h_2.h_2.post.success.isFalse.h_1.isTrue =>
      obtain ⟨hi, -, -⟩ := ‹i < t.nodes.size ∧ _ ∧ ExactKeyed K ts _ ∧ _›
      exact combined_dropped (keyed.wellFormed t ht) hi ‹_› det ‹_› ‹_› ‹_›
        fun _ hg => by simp_all
    case vc14.succ.isFalse.isFalse.h_2.h_2.post.success.isFalse.h_1.isFalse =>
      obtain ⟨hi, -, -⟩ := ‹i < t.nodes.size ∧ _ ∧ ExactKeyed K ts _ ∧ _›
      exact kept_exactAt keyed ht ‹_ = _ ∧ ExactKeyed K ts _ ∧ _›.2.1 hi ‹_›
        (exactAt_combine (keyed.wellFormed t ht) hi ‹_› det ‹_› ‹_› _) ‹_› ‹_› _ _
    case vc15.succ.isFalse.isFalse.h_2.h_2.post.success.isFalse.h_2 =>
      obtain ⟨hi, -, -⟩ := ‹i < t.nodes.size ∧ _ ∧ ExactKeyed K ts _ ∧ _›
      exact combined_dropped (keyed.wellFormed t ht) hi ‹_› det ‹_› ‹_› ‹_›
        fun _ hg => by simp_all

end Render

/-! ### Soundness of subtree keys -/

theorem keyedTrees_of_held {ts : List SceneTree}
    (held : ∀ t ∈ ts, ∃ (config budgets : Config.PipelineConfig) (document : Document)
      (files : Files.FileStore) (calls : List SessionCall) (log : Array LogRecord),
      (((runCalls calls).run ⟨Coordinator.create config budgets, document, files, {}, #[]⟩).run
        log).run.1.2.coordinator.tree = some t)
    (decode : KeysDecode ts) : KeyedTrees ts := by
  have sound (t : SceneTree) (ht : t ∈ ts) : t.WellFormed ∧ t.KeysComputed := by
    obtain ⟨config, budgets, document, files, calls, log, tree⟩ := held t ht
    exact (previewSound_between_calls config budgets document files calls log).2 t tree
  exact ⟨fun t ht => (sound t ht).1, fun t ht => (sound t ht).2, decode⟩

theorem setKernel_deterministic (I : PointReading) : (setKernel I).Deterministic :=
  ⟨fun _ _ => rfl, fun _ _ _ => rfl⟩

/-- Subtree keys are sound for the exact cache. Over trees whose keys decode, under a
deterministic kernel: drawn nodes with equal keys, in one tree or in two, have equal geometry;
the empty cache is keyed, and a new budget or a flush keeps a keyed cache keyed; and from a keyed
cache the render of any node of any of the trees leaves the cache keyed and returns the node's
geometry, failing only when a cancel comes. -/
theorem subtree_keys_sound (K : SolidKernel G) (det : K.Deterministic) {ts : List SceneTree}
    (keyed : KeyedTrees ts) :
    (∀ t ∈ ts, ∀ t' ∈ ts, ∀ i < t.nodes.size, ∀ j < t'.nodes.size, t.Rendered i →
      t'.Rendered j → t.key i = t'.key j → K.exactAt t i = K.exactAt t' j) ∧
    (∀ name max, ExactKeyed K ts (LruCache.create name max)) ∧
    (∀ c, ExactKeyed K ts c → ∀ max log,
      ExactKeyed K ts ((c.setMax max) log).run.1 ∧ ExactKeyed K ts c.clear) ∧
    (∀ t ∈ ts, ∀ i < t.nodes.size, ∀ fuel, t.nodes.size - i ≤ fuel →
      ∀ (r : Rendering G) (log : Array LogRecord), ExactKeyed K ts r.cache →
        ∃ r', ExactKeyed K ts r'.cache ∧
          ((((renderNode K t fuel i).run.run r).run log).run.1 = (.ok (K.exactAt t i), r') ∨
            r.cancel.arrival.isSome ∧
              (((renderNode K t fuel i).run.run r).run log).run.1 = (.error .cancelled, r'))) := by
  refine ⟨?keys, ?empty, ?evict, ?render⟩
  case keys =>
    exact fun t ht t' ht' i hi j hj ri rj same => keyed.exactAt_eq ht ht' hi hj ri rj same
  case empty => exact fun name max => exactKeyed_create name max
  case evict => exact fun c hc max log => ⟨hc.setMax max log, exactKeyed_clear c⟩
  case render =>
    intro t ht i hi fuel hfuel r log hc
    have outcome := Step.run_of_triple
      (renderNode_exactAt det keyed ht r.cancel.arrival.isSome fuel i) ⟨hi, hfuel, hc, rfl⟩ log
    split at outcome
    next g r' run =>
      obtain ⟨rfl, keyedAfter, -⟩ := outcome
      exact ⟨r', keyedAfter, .inl run⟩
    next e r' run =>
      obtain ⟨rfl, stopped, keyedAfter⟩ := outcome
      exact ⟨r', keyedAfter, .inr ⟨stopped, run⟩⟩

def twoCubesTree : SceneTree :=
  let cube : NodeKind := .primitive (.cube ⟨1, 1, 1⟩ false)
  let nodes : Array SceneNode :=
    #[⟨0, .union, {}, [1, 2], 3, 0⟩, ⟨1, cube, {}, [], 2, 8⟩, ⟨2, cube, {}, [], 3, 17⟩]
  ⟨nodes, 0, subtreeKeys nodes⟩

theorem twoCubesTree_inner {i : Nat} (hi : i < twoCubesTree.nodes.size)
    (inner : (twoCubesTree.node i).kind.isLeaf = false) : i = 0 := by
  have hi : i < 3 := hi
  interval_cases i
  · rfl
  all_goals exact absurd inner (by decide)

theorem twoCubesTree_numbers {i : Nat} (hi : i < twoCubesTree.nodes.size) :
    ∀ x ∈ (twoCubesTree.node i).kind.numbers, x = 1 := by
  have hi : i < 3 := hi
  interval_cases i <;>
    simp [twoCubesTree, SceneTree.node, NodeKind.numbers, Geometry.Primitive.numbers]

theorem twoCubesTree_keyed : KeyedTrees [twoCubesTree] := by
  refine ⟨fun t ht => ?_, fun t ht => ?_, ⟨?_, ?_⟩⟩
  · rw [List.mem_singleton.mp ht]
    decide
  · rw [List.mem_singleton.mp ht]
    exact rfl
  · -- the union is the one inner node
    intro t ht t' ht' i hi j hj _ _ inner inner' _
    rw [List.mem_singleton.mp ht] at hi inner ⊢
    rw [List.mem_singleton.mp ht'] at hj inner' ⊢
    rw [twoCubesTree_inner hi inner, twoCubesTree_inner hj inner']
  · -- every number printed is a one
    intro t ht t' ht' i hi j hj _ _ x mem y mem' _
    rw [List.mem_singleton.mp ht] at hi mem
    rw [List.mem_singleton.mp ht'] at hj mem'
    rw [twoCubesTree_numbers hi x mem, twoCubesTree_numbers hj y mem']

theorem subtree_keys_sound_twoCubes :
    let K := setKernel ⟨fun p => p.previewShape.box.points, fun _ => id⟩
    KeyedTrees [twoCubesTree] ∧ twoCubesTree.key 1 = twoCubesTree.key 2 ∧
      K.exactAt twoCubesTree 1 = K.exactAt twoCubesTree 2 ∧
      ∃ r', (((renderNode K twoCubesTree 4 0).run.run
        { cache := LruCache.create "Exact cache" 100, tessellations := {}, total := 3 }).run
          #[]).run.1 = (.ok (K.exactAt twoCubesTree 0), r') := by
  intro K
  have sound := subtree_keys_sound K (setKernel_deterministic _) twoCubesTree_keyed
  have same : twoCubesTree.key 1 = twoCubesTree.key 2 := by
    rw [SceneTree.key_of_primitive (t := twoCubesTree) rfl (p := .cube ⟨1, 1, 1⟩ false) rfl,
      SceneTree.key_of_primitive (t := twoCubesTree) rfl (p := .cube ⟨1, 1, 1⟩ false) rfl]
  refine ⟨twoCubesTree_keyed, same, ?_, ?_⟩
  · exact sound.1 _ List.mem_cons_self _ List.mem_cons_self 1 (by decide) 2 (by decide)
      ⟨rfl, rfl⟩ ⟨rfl, rfl⟩ same
  · obtain ⟨r', -, ok | ⟨cancelled, -⟩⟩ := sound.2.2.2 _ List.mem_cons_self 0 (by decide) 4
      (by decide) { cache := LruCache.create "Exact cache" 100, tessellations := {}, total := 3 } #[]
      (sound.2.1 _ _)
    · exact ⟨r', ok⟩
    · simp at cancelled

end CsgPreview.Pipeline
