import Mathlib
import CsgPreview.Proofs.Pipeline.FaithfulCaches

/-!
The preview cache is transparent: a build gives the same chains whatever faithful caches it starts
from.

A build reads its caches in two places only. The preview walk looks primitives up in them, and,
when no two primitives of the tree are described alike, gives the same terms from any two faithful
caches. The statistics of the caches go to the diagnostics, which nothing reads back: normalizing
only logs. Everything else a build does reads and writes what the caches leave alone. So two
sessions that differ only in their faithful caches build in lockstep: the same chains, and again
sessions that differ only in their faithful caches.

Every session reached through calls from a fresh coordinator has faithful caches and a tree with
its keys computed, so its build gives the chains of a build from an empty preview cache.
-/

namespace CsgPreview.Csg

theorem normalizePasses_blind (budget : Nat) (cancel : Pipeline.CancelToken) (current : Term)
    (passes : Nat) (unchanged : Bool) :
    Logged.Blind (normalizePasses budget cancel current passes unchanged).run := by
  fun_induction normalizePasses budget cancel current passes unchanged with
  | case4 current passes _ _ r _ _ next found _ _ lighter ih => exact ih
  | case1 | case2 | case3 | case5 => exact fun _ _ => rfl

end CsgPreview.Csg

namespace CsgPreview.Scene

/-- A tree whose keys are computed and no two of whose primitives are described alike. -/
def SceneTree.Keyed (T : SceneTree) : Prop :=
  T.KeysComputed ∧ ∀ i p, (T.node i).kind = .primitive p → p.UniquelyDescribed

end CsgPreview.Scene

namespace CsgPreview.Pipeline

open Cache Scene Csg CsgPreview.Geometry Config

def Coordinator.withoutPreview (c : Coordinator) : Coordinator :=
  { c with preview := LruCache.create "" 0, tessellations := {} }

def Session.withoutPreview (s : Session) : Session :=
  { s with coordinator := s.coordinator.withoutPreview }

def Session.withFreshPreview (s : Session) : Session :=
  { s with coordinator :=
    { s.coordinator with preview := s.coordinator.preview.clear, tessellations := {} } }

/-- Two sessions that differ at most in their preview caches and tessellations, both faithful,
with a tree, if any, whose keys are computed and no two of whose primitives are described
alike, and a settled cancel token. -/
structure Session.PreviewAgree (s s' : Session) : Prop where
  same : s.withoutPreview = s'.withoutPreview
  left : CachesFaithful s.coordinator.preview s.coordinator.tessellations
  right : CachesFaithful s'.coordinator.preview s'.coordinator.tessellations
  keyed : ∀ T, s.coordinator.tree = some T → T.Keyed
  settled : s.coordinator.cancel.Settled

namespace Session.PreviewAgree

variable {s s' : Session}

theorem read (h : s.PreviewAgree s') {α : Type} (f : Coordinator → α)
    (hf : ∀ c, f c.withoutPreview = f c) : f s.coordinator = f s'.coordinator := by
  have := congrArg (fun s => f s.coordinator) h.same
  simpa only [Session.withoutPreview, hf] using this

theorem map (h : s.PreviewAgree s') (F : Session → Session)
    (commutes : ∀ s, (F s).withoutPreview = F s.withoutPreview)
    (keeps : ∀ s, (F s).coordinator.preview = s.coordinator.preview ∧
      (F s).coordinator.tessellations = s.coordinator.tessellations ∧
      (F s).coordinator.tree = s.coordinator.tree ∧
      (s.coordinator.cancel.Settled → (F s).coordinator.cancel.Settled)) :
    (F s).PreviewAgree (F s') := by
  obtain ⟨preview, tessellations, tree, settled⟩ := keeps s
  obtain ⟨preview', tessellations', -, -⟩ := keeps s'
  refine ⟨by rw [commutes, commutes, h.same], ?_, ?_, ?_, settled h.settled⟩
  · rw [preview, tessellations]
    exact h.left
  · rw [preview', tessellations']
    exact h.right
  · rw [tree]
    exact h.keyed

theorem tell (h : s.PreviewAgree s') (g : Notices → Notices) :
    PreviewAgree { s with notices := g s.notices } { s' with notices := g s'.notices } :=
  h.map (fun s => { s with notices := g s.notices }) (fun _ => rfl) fun _ => ⟨rfl, rfl, rfl, id⟩

theorem withWalk (h : s.PreviewAgree s') {p p' : LruCache Shape} {t t' : Tessellations}
    {k : CancelToken} (faithful : CachesFaithful p t) (faithful' : CachesFaithful p' t')
    (settled : k.Settled) :
    PreviewAgree
      { s with coordinator := { s.coordinator with preview := p, tessellations := t, cancel := k } }
      { s' with coordinator :=
        { s'.coordinator with preview := p', tessellations := t', cancel := k } } :=
  ⟨congrArg (fun s : Session => { s with coordinator := { s.coordinator with cancel := k } }) h.same,
    faithful, faithful', h.keyed, settled⟩

end Session.PreviewAgree

namespace Session

open PreviewAgree

/-! ### The steps of a build, run from agreeing sessions -/

theorem report_agree (level : LogLevel) (source : LogSource) (message : String) :
    Lockstep PreviewAgree (liftM (report level source message) : SessionM Unit)
      (liftM (report level source message)) :=
  Lockstep.lift (Logged.Blind.report level source message)

theorem tell_agree (g : Notices → Notices) : Lockstep PreviewAgree (tell g) (tell g) :=
  Lockstep.modify_state fun _ _ h => h.tell g

theorem update_agree (f : Coordinator → Coordinator)
    (commutes : ∀ c, (f c).withoutPreview = f c.withoutPreview)
    (keeps : ∀ c, (f c).preview = c.preview ∧ (f c).tessellations = c.tessellations ∧
      (f c).tree = c.tree ∧ (c.cancel.Settled → (f c).cancel.Settled)) :
    Lockstep PreviewAgree (update f) (update f) :=
  Lockstep.modify_state fun _ _ h =>
    h.map (fun s => { s with coordinator := f s.coordinator })
      (fun s => congrArg (fun c => { s with coordinator := c }) (commutes s.coordinator))
      fun s => keeps s.coordinator

theorem say_agree (message : String) : Lockstep PreviewAgree (say message) (say message) :=
  (report_agree _ _ _).bind fun _ => tell_agree _

theorem warnUser_agree (message : String) :
    Lockstep PreviewAgree (warnUser message) (warnUser message) :=
  (report_agree _ _ _).bind fun _ => tell_agree _

theorem logStats_agree : Lockstep PreviewAgree logStats logStats := by
  unfold logStats
  -- the counters of the caches go to the diagnostics only
  exact Lockstep.get_bind fun _ _ _ => Lockstep.lift_unit.bind fun _ => Lockstep.lift_unit

theorem normalizeTerm_agree (term : Term) :
    Lockstep PreviewAgree (normalizeTerm term).run (normalizeTerm term).run := by
  unfold normalizeTerm
  refine Lockstep.step_get_bind fun s s' h => ?_
  have config : s.coordinator.config = s'.coordinator.config := h.read (·.config) fun _ => rfl
  have cancel : s.coordinator.cancel = s'.coordinator.cancel := h.read (·.cancel) fun _ => rfl
  dsimp only
  rw [config, cancel]
  refine Lockstep.step_lift_bind_rel Eq (fun _ _ => normalizePasses_blind _ _ _ _ _ _ _)
    fun r _ same => ?_
  subst same
  cases r with
  | ok n =>
    refine Lockstep.step_bind (Lockstep.step_lift (update_agree _ (fun _ => rfl)
      fun _ => ⟨rfl, rfl, rfl, fun settled => settled.after _⟩)) fun _ => ?_
    exact .pure _
  | error e => exact .pure _

theorem evaluateTree_agree {tree : SceneTree} (keyed : tree.Keyed) :
    Lockstep PreviewAgree (evaluateTree tree).run (evaluateTree tree).run := by
  unfold evaluateTree
  refine Lockstep.step_get_bind fun s s' h => ?_
  have cancel : s.coordinator.cancel = s'.coordinator.cancel := h.read (·.cancel) fun _ => rfl
  dsimp only
  rw [← cancel]
  -- the walks differ only in their faithful caches, so they give the same terms
  refine Lockstep.step_lift_bind_rel (fun a b => a.1 = b.1 ∧ Walk.Agree a.2 b.2)
    (fun log log' => evaluate_agree keyed.1 keyed.2 _ _ log log'
      ⟨rfl, rfl, rfl, rfl, h.settled, h.left, h.right⟩)
    fun ⟨result, walk⟩ ⟨result', walk'⟩ ⟨same, agree⟩ => ?_
  dsimp only at same ⊢
  subst same
  rw [← agree.cancel]
  refine Lockstep.step_bind (Lockstep.step_lift (Lockstep.modify_state fun _ _ h =>
    h.withWalk agree.left agree.right agree.settled)) fun _ => ?_
  rw [agree.progress]
  refine Lockstep.step_bind (Lockstep.step_lift (tell_agree _)) fun _ => ?_
  cases result with
  | ok terms => exact .pure _
  | error e => exact .pure _

theorem normalizePrimary_agree (primary : Option Term) :
    Lockstep PreviewAgree (normalizePrimary primary).run (normalizePrimary primary).run := by
  cases primary with
  | none => exact .pure _
  | some term =>
    unfold normalizePrimary
    refine Lockstep.step_bind (normalizeTerm_agree _) fun normalized => ?_
    dsimp only
    split
    · exact .pure _
    · exact Lockstep.step_bind (Lockstep.step_lift (warnUser_agree _)) fun _ => .pure _

theorem normalizeOverlays_agree (label : String) (terms : Array Term) (flags : Flags) :
    Lockstep PreviewAgree (normalizeOverlays label terms flags).run
      (normalizeOverlays label terms flags).run := by
  unfold normalizeOverlays
  dsimp only
  split
  · refine Lockstep.step_bind (Lockstep.step_lift (say_agree _)) fun _ => ?_
    refine Lockstep.step_bind (Lockstep.step_forIn_array fun term acc => ?_) fun acc => .pure _
    refine Lockstep.step_bind (normalizeTerm_agree _) fun normalized => ?_
    split <;> exact .pure _
  · exact .pure _

theorem buildChains_agree : Lockstep PreviewAgree buildChains.run buildChains.run := by
  unfold buildChains
  refine Lockstep.step_get_bind fun s s' h => ?_
  have sameTree : s.coordinator.tree = s'.coordinator.tree := h.read (·.tree) fun _ => rfl
  rw [← sameTree]
  cases current : s.coordinator.tree with
  | none => exact .pure _
  | some tree =>
    have keyed := h.keyed tree current
    dsimp only
    refine Lockstep.step_bind (Lockstep.step_lift (say_agree _)) fun _ => ?_
    refine Lockstep.step_bind (evaluateTree_agree keyed) fun terms => ?_
    refine Lockstep.step_bind (Lockstep.step_lift logStats_agree) fun _ => ?_
    refine Lockstep.step_bind (Lockstep.step_lift (say_agree _)) fun _ => ?_
    refine Lockstep.step_bind (normalizePrimary_agree _) fun ⟨primary, primaryAborted⟩ => ?_
    refine Lockstep.step_bind (normalizeOverlays_agree _ _ _) fun ⟨highlights, lit⟩ => ?_
    refine Lockstep.step_bind (normalizeOverlays_agree _ _ _) fun ⟨background, behind⟩ => ?_
    refine Lockstep.step_get_bind fun s s' h => ?_
    have config : s.coordinator.config = s'.coordinator.config := h.read (·.config) fun _ => rfl
    have generation : s.coordinator.generation = s'.coordinator.generation :=
      h.read (·.generation) fun _ => rfl
    dsimp only
    rw [config, generation]
    -- what follows reads nothing the two sessions do not share
    have record := Lockstep.step_lift
      (update_agree (fun c => { c with chains := some ⟨primary, highlights, background,
        decide (primary.size ≤ s'.coordinator.config.previewElementLimit),
        primaryAborted || lit || behind, s'.coordinator.generation⟩ })
        (fun _ => rfl) fun _ => ⟨rfl, rfl, rfl, id⟩)
    split
    · refine Lockstep.step_bind (Lockstep.step_lift (say_agree _)) fun _ => ?_
      refine Lockstep.step_bind record fun _ => ?_
      exact Lockstep.step_bind (Lockstep.step_lift (say_agree _)) fun _ => .pure _
    · refine Lockstep.step_bind (Lockstep.step_lift (warnUser_agree _)) fun _ => ?_
      refine Lockstep.step_bind (Lockstep.step_lift (warnUser_agree _)) fun _ => ?_
      refine Lockstep.step_bind record fun _ => ?_
      exact Lockstep.step_bind (Lockstep.step_lift (say_agree _)) fun _ => .pure _

theorem buildProducts_agree : Lockstep PreviewAgree buildProducts buildProducts := by
  unfold buildProducts
  refine buildChains_agree.bind fun result => ?_
  -- the cancel request is dropped and a finished compile goes back to idle, alike in both
  refine (update_agree _ (by intro; rfl) (by intro; exact ⟨rfl, rfl, rfl, fun _ => .inl rfl⟩)).bind
    fun _ => ?_
  refine (update_agree _ (by intro; rfl) (by intro; exact ⟨rfl, rfl, rfl, id⟩)).bind fun _ => ?_
  dsimp only
  split
  · exact (say_agree _).bind fun _ => .pure _
  · exact .pure _

end Session

/-- The preview cache is transparent. In a session reached through any calls from a fresh
coordinator, when no number of a primitive of its tree prints like another float and no cancel
comes while it builds (none is on its way, or one came before), building gives the same result,
chains or error, as building from an empty preview cache and no tessellations, whatever was
logged before either; and the sessions it leaves differ only in their preview caches. In
particular, a build after earlier builds, cancelled ones and cache changes gives the chains of a
build from empty caches. -/
theorem buildProducts_cache_transparent (config budgets : PipelineConfig) (document : Document)
    (files : Files.FileStore) (calls : List SessionCall) (log : Array LogRecord) :
    let s := (((runCalls calls).run ⟨Coordinator.create config budgets, document, files, {}, #[]⟩).run
      log).run.1.2
    (∀ T, s.coordinator.tree = some T → ∀ i p, (T.node i).kind = .primitive p →
      ∀ x ∈ p.numbers, Primitive.PrintsApart x) →
    (s.coordinator.cancel = {} ∨ s.coordinator.cancel = .cancelled) →
    ∀ log₁ log₂, ((Session.buildProducts.run s).run log₁).run.1.1 =
        ((Session.buildProducts.run s.withFreshPreview).run log₂).run.1.1 ∧
      ((Session.buildProducts.run s).run log₁).run.1.2.withoutPreview =
        ((Session.buildProducts.run s.withFreshPreview).run log₂).run.1.2.withoutPreview := by
  intro s apart settled log₁ log₂
  have sound := previewSound_between_calls config budgets document files calls log
  have agree : s.PreviewAgree s.withFreshPreview :=
    ⟨rfl, sound.1, cachesFaithful_clear _, fun T tree =>
      ⟨(sound.2 T tree).2, fun i p prim => Primitive.uniquelyDescribed_of_printsApart (apart T tree i p prim)⟩,
      settled⟩
  obtain ⟨same, after⟩ := Session.buildProducts_agree s _ log₁ log₂ agree
  exact ⟨same, after.same⟩

theorem SceneTree.printsApart_of_zero_numbers {T : SceneTree}
    (zeros : (T.nodes.all fun n => n.kind.numbers.all (·.toBits == 0)) = true) :
    ∀ i p, (T.node i).kind = .primitive p → ∀ x ∈ p.numbers, Primitive.PrintsApart x := by
  intro i p primitive x mem
  have inside := SceneTree.lt_of_kind_eq_primitive primitive
  have numbers := Array.all_eq_true.1 zeros i inside
  rw [show T.nodes[i] = T.node i by simp [SceneTree.node, getElem!_pos, inside],
    primitive] at numbers
  have zero : x.toBits = (0 : Float).toBits := by
    have bits : x.toBits = 0 := by simpa using List.all_eq_true.1 numbers x mem
    exact bits.trans (by decide +kernel)
  rw [Decimal.Float.eq_of_toBits_eq zero]
  exact Primitive.printsApart_zero

/-- A difference of a cube and a sphere, compiled, built and compiled again: the second build
starts from a preview cache that holds both primitives, and gives what a build from empty caches
gives. -/
theorem buildProducts_cache_transparent_rebuilt :
    let s := (((runCalls [.compile false, .buildProducts, .compile false]).run
      ⟨Coordinator.create default default, { text := "difference() \x7b cube(0); sphere(0); \x7d" },
        ⟨"", [], [], 0⟩, {}, #[]⟩).run #[]).run.1.2
    s.coordinator.preview.entries.length = 2 ∧
    (∃ T, s.coordinator.tree = some T ∧
      (T.nodes.map (·.kind.isLeaf)).toList = [false, false, true, true]) ∧
    (∀ T, s.coordinator.tree = some T → ∀ i p, (T.node i).kind = .primitive p →
      ∀ x ∈ p.numbers, Primitive.PrintsApart x) ∧
    (s.coordinator.cancel = {} ∨ s.coordinator.cancel = .cancelled) ∧
    ∀ log₁ log₂, ((Session.buildProducts.run s).run log₁).run.1.1 =
        ((Session.buildProducts.run s.withFreshPreview).run log₂).run.1.1 ∧
      ((Session.buildProducts.run s).run log₁).run.1.2.withoutPreview =
        ((Session.buildProducts.run s.withFreshPreview).run log₂).run.1.2.withoutPreview := by
  intro s
  -- the calls run in the kernel once the instantiation of the two levels of calls is unfolded
  have ran : (s.coordinator.preview.entries.length, decide (s.coordinator.cancel = {}),
      s.coordinator.tree.map fun T => ((T.nodes.map (·.kind.isLeaf)).toList,
        T.nodes.all fun n => n.kind.numbers.all (·.toBits == 0))) =
      (2, true, some ([false, false, true, true], true)) := by
    unfold s runCalls runCalls runCalls runCalls SessionCall.run Session.compile
      Session.compileWith Session.finish Session.instantiateRoot instantiate
    rw [instantiateCall.eq_unfold, instantiateCall.eq_unfold]
    decide +kernel
  simp only [Prod.mk.injEq, decide_eq_true_eq, Option.map_eq_some_iff] at ran
  obtain ⟨entries, settled, T, tree, leaves, zeros⟩ := ran
  have apart : ∀ T, s.coordinator.tree = some T → ∀ i p, (T.node i).kind = .primitive p →
      ∀ x ∈ p.numbers, Primitive.PrintsApart x := by
    intro T' tree'
    rw [tree, Option.some.injEq] at tree'
    exact tree' ▸ SceneTree.printsApart_of_zero_numbers zeros
  have transparent := buildProducts_cache_transparent default default
    { text := "difference() \x7b cube(0); sphere(0); \x7d" } ⟨"", [], [], 0⟩
    [.compile false, .buildProducts, .compile false] #[]
  unfold s at entries settled tree apart ⊢
  exact ⟨entries, ⟨T, tree, leaves⟩, apart, .inl settled, transparent apart (.inl settled)⟩

end CsgPreview.Pipeline
