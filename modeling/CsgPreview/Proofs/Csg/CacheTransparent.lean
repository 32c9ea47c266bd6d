import Mathlib
import CsgPreview.Proofs.Csg.WalkSteps
import CsgPreview.Proofs.Cache.Faithful
import CsgPreview.Proofs.Scene.SubtreeKeys

/-!
The preview walk cannot tell one faithful cache from another.

The walk reads its caches in one place only: a primitive's geometry is looked up under the
primitive's key, and on a miss it is tessellated (through the tessellations) and stored. Under
its own key, the description and `;`, a faithful cache hands back what a primitive described
alike makes afresh, and keeps faithful. Everything else the walk does is bookkeeping (progress
and the overlays routed out), which does the same to any two states.

So the whole walk runs in lockstep for any relation between walk states that the bookkeeping
keeps and the leaves run in lockstep for. Two relations are used. `Walk.Kept` relates a state
with faithful caches to itself: in lockstep for it, a walk keeps its caches faithful on every
way out, cancelled or not, and does not depend on what was logged. `Walk.Agree` relates two
states that differ only in their faithful caches: when no two primitives of the tree are
described alike, the walk gives the same terms from both, and the states it leaves again differ
only in their faithful caches.
-/

namespace CsgPreview.Pipeline.CancelToken

/-- A token whose checkpoints all answer alike: no cancel comes, or one is there already. -/
def Settled (t : CancelToken) : Prop := t = {} ∨ t = .cancelled

theorem Settled.after {t : CancelToken} (h : t.Settled) (n : Nat) : (t.after n).Settled := by
  rcases h with rfl | rfl
  · exact .inl rfl
  · exact .inr (cancelled_after n)

end CsgPreview.Pipeline.CancelToken

namespace CsgPreview.Csg

open CsgPreview.Geometry Scene Cache Pipeline

/-- A relation between walk states that the walk's bookkeeping keeps: related states hold the
same overlays, and counting progress or routing out a term, done alike to both, keeps them
related. -/
structure Walk.Bookkeeping (R : Walk → Walk → Prop) : Prop where
  overlays : ∀ {w w'}, R w w' → w.highlights = w'.highlights ∧ w.backgrounds = w'.backgrounds
  progress : ∀ {w w'} (f : Progress → Progress), R w w' →
    R { w with progress := f w.progress } { w' with progress := f w'.progress }
  highlight : ∀ {w w'} (t : Term), R w w' →
    R { w with highlights := w.highlights.push t } { w' with highlights := w'.highlights.push t }
  background : ∀ {w w'} (t : Term), R w w' →
    R { w with backgrounds := w.backgrounds.push t } { w' with backgrounds := w'.backgrounds.push t }

/-- A state with faithful caches, related to itself only. -/
def Walk.Kept (w w' : Walk) : Prop := w = w' ∧ CachesFaithful w.cache w.tessellations

/-- Two states that differ only in their caches, both faithful, with a token that no cancel
reaches or that is cancelled already. -/
structure Walk.Agree (w w' : Walk) : Prop where
  progress : w.progress = w'.progress
  highlights : w.highlights = w'.highlights
  backgrounds : w.backgrounds = w'.backgrounds
  cancel : w.cancel = w'.cancel
  settled : w.cancel.Settled
  left : CachesFaithful w.cache w.tessellations
  right : CachesFaithful w'.cache w'.tessellations

theorem Walk.bookkeeping_kept : Walk.Bookkeeping Walk.Kept where
  overlays := by
    rintro w _ ⟨rfl, -⟩
    exact ⟨rfl, rfl⟩
  progress := by
    rintro w _ f ⟨rfl, faithful⟩
    exact ⟨rfl, faithful⟩
  highlight := by
    rintro w _ t ⟨rfl, faithful⟩
    exact ⟨rfl, faithful⟩
  background := by
    rintro w _ t ⟨rfl, faithful⟩
    exact ⟨rfl, faithful⟩

theorem Walk.bookkeeping_agree : Walk.Bookkeeping Walk.Agree where
  overlays h := ⟨h.highlights, h.backgrounds⟩
  progress f h :=
    ⟨congrArg f h.progress, h.highlights, h.backgrounds, h.cancel, h.settled, h.left, h.right⟩
  highlight t h := ⟨h.progress, congrArg (fun hs => hs.push t) h.highlights, h.backgrounds,
    h.cancel, h.settled, h.left, h.right⟩
  background t h := ⟨h.progress, h.highlights, congrArg (fun bs => bs.push t) h.backgrounds,
    h.cancel, h.settled, h.left, h.right⟩

/-! ### A primitive's geometry under its own key -/

theorem leafGeometry_run {w : Walk} (faithful : CachesFaithful w.cache w.tessellations)
    (p : Primitive) (log : Array LogRecord) :
    ∃ r c t k, (((leafGeometry (p.describe ++ ";") p).run.run w).run log).run.1 =
        (r, { w with cache := c, tessellations := t, cancel := w.cancel.after k }) ∧
      CachesFaithful c t ∧
      ((w.cancel.arrival.isSome ∧ r = .error .cancelled) ∨
        ∃ g, r = .ok g ∧ ∃ q : Primitive, q.describe = p.describe ∧ g = q.previewShape) := by
  unfold leafGeometry
  rw [Walking.run_walkCheckpoint_bind]
  split
  next seen =>
    refine ⟨_, w.cache, w.tessellations, 0, by simp, faithful, .inl ⟨?_, rfl⟩⟩
    exact Pipeline.CancelToken.arrival_isSome_of_isCancelled seen
  rw [Walking.run_get_bind]
  have kept := faithful.preview.lookup (p.describe ++ ";")
  split
  next cache g hit =>
    -- a hit is an entry stored under the key, so some primitive with this description made it
    rw [hit] at kept
    obtain ⟨q, key, made⟩ := LruCache.good_of_lookup faithful.preview (by rw [hit])
    have same : q.describe = p.describe := by
      simpa [String.toList_append, String.toList_inj] using congrArg String.toList key.symm
    exact ⟨_, cache, w.tessellations, 1, rfl, ⟨kept, faithful.tessellations⟩, .inr ⟨g, rfl, q, same, made⟩⟩
  next cache miss =>
    rw [miss] at kept
    rw [Walking.run_set_bind, Walking.run_walkCheckpoint_bind]
    split
    next seen =>
      -- the kernel's checkpoint sees the cancel, after the miss is counted
      refine ⟨_, cache, w.tessellations, 1, rfl, ⟨kept, faithful.tessellations⟩, .inl ⟨?_, rfl⟩⟩
      simpa using Pipeline.CancelToken.arrival_isSome_of_isCancelled seen
    obtain ⟨q, same, made⟩ := Tessellations.preview_described faithful.tessellations p
    have stored := PreviewFaithful.insert kept (q := q) q.previewShape.memorySize log
    rw [same] at stored
    have tessellated := faithful.tessellations.preview p
    rcases hpreview : w.tessellations.preview p with ⟨t, g⟩
    rw [hpreview] at made tessellated
    dsimp only at made
    subst made
    simp only [Walking.run_lift_bind, Walking.run_modify_bind, Walking.run_pure]
    refine ⟨_, _, _, 2, ?_, ⟨stored, tessellated⟩, .inr ⟨_, rfl, q, same, rfl⟩⟩
    rw [Pipeline.CancelToken.after_after]
    rfl

theorem leafGeometry_blind (key : String) (p : Primitive) (w : Walk) (log log' : Array LogRecord) :
    (((leafGeometry key p).run.run w).run log).run.1 =
      (((leafGeometry key p).run.run w).run log').run.1 := by
  unfold leafGeometry
  rw [Walking.run_walkCheckpoint_bind, Walking.run_walkCheckpoint_bind]
  split
  · rfl
  rw [Walking.run_get_bind, Walking.run_get_bind]
  split
  · rfl
  simp only [Walking.run_set_bind, Walking.run_walkCheckpoint_bind]
  split
  · rfl
  simp only [Walking.run_lift_bind, Walking.run_modify_bind, Walking.run_pure]
  rw [LruCache.insert_blind _ _ _ _ log log']

theorem leafGeometry_kept (p : Primitive) :
    Lockstep Walk.Kept (leafGeometry (p.describe ++ ";") p).run
      (leafGeometry (p.describe ++ ";") p).run := by
  rintro w _ log log' ⟨rfl, faithful⟩
  rw [← leafGeometry_blind _ p w log log']
  obtain ⟨r, c, t, k, run, kept, -⟩ := leafGeometry_run faithful p log
  rw [run]
  exact ⟨rfl, rfl, kept⟩

theorem leafGeometry_agree {p : Primitive} (unique : p.UniquelyDescribed) :
    Lockstep Walk.Agree (leafGeometry (p.describe ++ ";") p).run
      (leafGeometry (p.describe ++ ";") p).run := by
  intro w w' log log' agree
  rcases agree.settled with quiet | cancelled
  case inl =>
    -- no cancel comes: both look the primitive up and give what it makes afresh
    have quiet' : w'.cancel = {} := agree.cancel ▸ quiet
    obtain ⟨r, c, t, k, run, kept, ended⟩ := leafGeometry_run agree.left p log
    obtain ⟨r', c', t', k', run', kept', ended'⟩ := leafGeometry_run agree.right p log'
    rw [run, run']
    rcases ended with ⟨comes, -⟩ | ⟨g, rfl, q, same, made⟩
    · simp [quiet] at comes
    rcases ended' with ⟨comes, -⟩ | ⟨g', rfl, q', same', made'⟩
    · simp [quiet'] at comes
    refine ⟨by rw [made, made', unique q same, unique q' same'], agree.progress, agree.highlights,
      agree.backgrounds, by simp [quiet, quiet'], .inl (by simp [quiet]), kept, kept'⟩
  case inr =>
    -- a cancel already there stops both at the first checkpoint, before the lookup
    have cancelled' : w'.cancel = .cancelled := agree.cancel ▸ cancelled
    unfold leafGeometry
    simp only [Walking.run_walkCheckpoint_bind, cancelled, cancelled',
      Pipeline.CancelToken.isCancelled_cancelled, ↓reduceIte]
    exact ⟨trivial, agree⟩

/-! ### The walk in lockstep -/

section Lockstep

variable {R : Walk → Walk → Prop} (book : Walk.Bookkeeping R)
include book

theorem markDone_lockstep (done : Nat) : Lockstep R (markDone done).run (markDone done).run :=
  Lockstep.step_modify fun _ _ h => book.progress (·.mark done) h

theorem routeOut_lockstep (node : SceneNode) (term : Option Term) :
    Lockstep R (routeOut node term).run (routeOut node term).run := by
  unfold routeOut
  split
  · dsimp only
    split
    · split
      · exact Lockstep.step_bind (Lockstep.step_modify fun _ _ h => book.background _ h)
          fun _ => .pure _
      · exact Lockstep.step_bind (Lockstep.step_modify fun _ _ h => book.highlight _ h)
          fun _ => .pure _
    · exact .pure _
  · exact .pure _

variable {tree : SceneTree}

theorem primitiveTerm_lockstep {origin index : Nat} {p : Primitive}
    (leaf : Lockstep R (leafGeometry (tree.key index) p).run (leafGeometry (tree.key index) p).run)
    (matrix : Mat4) (color : Option Rgba) :
    Lockstep R (primitiveTerm tree origin index p matrix color).run
      (primitiveTerm tree origin index p matrix color).run := by
  unfold primitiveTerm
  exact Lockstep.step_bind leaf fun _ => Lockstep.step_bind (markDone_lockstep book _)
    fun _ => .pure _

omit book in
theorem combineChildren_lockstep {eval : Nat → Walking (Option Term)}
    {route : Nat → Walking Unit} {cs : List Nat}
    (heval : ∀ c ∈ cs, Lockstep R (eval c).run (eval c).run)
    (hroute : ∀ c ∈ cs, Lockstep R (route c).run (route c).run) (op : BooleanOp)
    (acc : Option Term) :
    Lockstep R (combineChildren eval route op cs acc).run
      (combineChildren eval route op cs acc).run := by
  induction cs generalizing acc with
  | nil => exact .pure _
  | cons c rest ih =>
    have hrest := ih (fun c' mem => heval c' (List.mem_cons_of_mem c mem))
      (fun c' mem => hroute c' (List.mem_cons_of_mem c mem))
    rw [combineChildren]
    refine Lockstep.step_bind (heval c List.mem_cons_self) fun r => ?_
    cases r with
    | none => exact hrest acc
    | some term =>
      dsimp only
      split
      · exact Lockstep.step_bind (Lockstep.step_forM fun c' mem =>
          hroute c' (List.mem_cons_of_mem c mem)) fun _ => .pure _
      · exact hrest _

theorem walk_lockstep (origin : Nat)
    (leaf : ∀ i p, (tree.node i).kind = .primitive p →
      Lockstep R (leafGeometry (tree.key i) p).run (leafGeometry (tree.key i) p).run)
    (fuel : Nat) : ∀ i matrix color,
      Lockstep R (evalNode tree origin fuel i matrix color).run
        (evalNode tree origin fuel i matrix color).run ∧
      Lockstep R (routeOverlays tree origin fuel i matrix color).run
        (routeOverlays tree origin fuel i matrix color).run := by
  induction fuel with
  | zero => exact fun _ _ _ => ⟨.pure _, .pure _⟩
  | succ fuel ih =>
    intro i matrix color
    constructor
    · rw [evalNode]
      split
      · exact Lockstep.step_bind (markDone_lockstep book _) fun _ => .pure _
      · dsimp only
        -- the node's term, from its primitive or from its children, is then routed out
        split
        next p prim =>
          exact Lockstep.step_bind (primitiveTerm_lockstep book (leaf i p prim) matrix color)
            fun term => routeOut_lockstep book _ term
        next =>
          exact Lockstep.step_bind (combineChildren_lockstep (fun c _ => (ih c _ _).1)
            (fun c _ => (ih c _ _).2) _ none) fun term => routeOut_lockstep book _ term
    · rw [routeOverlays]
      split
      · exact Lockstep.step_discard (ih i matrix color).1
      · split
        · exact markDone_lockstep book _
        · split
          · exact markDone_lockstep book _
          · exact Lockstep.step_forM fun c _ => (ih c _ _).2

theorem evaluate_lockstep
    (leaf : ∀ i p, (tree.node i).kind = .primitive p →
      Lockstep R (leafGeometry (tree.key i) p).run (leafGeometry (tree.key i) p).run) :
    Lockstep R (evaluate tree).run (evaluate tree).run := by
  unfold evaluate
  refine Lockstep.step_bind (Lockstep.step_modify fun _ _ h =>
    book.progress (fun _ => Progress.start tree.totalIndexCount) h) fun _ => ?_
  refine Lockstep.step_bind (walk_lockstep book _ leaf _ _ _ _).1 fun primary => ?_
  refine Lockstep.step_bind (Lockstep.step_modify fun _ _ h => book.progress (·.finish) h)
    fun _ => ?_
  refine Lockstep.step_get_bind fun w w' h => ?_
  rw [(book.overlays h).1, (book.overlays h).2]
  exact .pure _

end Lockstep

/-! ### Faithful caches, kept and interchangeable -/

section Keyed

variable {tree : SceneTree} (computed : tree.KeysComputed)
include computed

theorem evaluate_kept :
    Lockstep Walk.Kept (evaluate tree).run (evaluate tree).run :=
  evaluate_lockstep Walk.bookkeeping_kept fun i p prim => by
    rw [SceneTree.key_of_primitive computed prim]
    exact leafGeometry_kept p

theorem evaluate_faithful {w : Walk}
    (faithful : CachesFaithful w.cache w.tessellations) (log : Array LogRecord) :
    CachesFaithful (((evaluate tree).run.run w).run log).run.1.2.cache
      (((evaluate tree).run.run w).run log).run.1.2.tessellations :=
  (evaluate_kept computed w w log log ⟨rfl, faithful⟩).2.2

theorem evaluate_agree (unique : ∀ i p, (tree.node i).kind = .primitive p → p.UniquelyDescribed) :
    Lockstep Walk.Agree (evaluate tree).run (evaluate tree).run :=
  evaluate_lockstep Walk.bookkeeping_agree fun i p prim => by
    rw [SceneTree.key_of_primitive computed prim]
    exact leafGeometry_agree (unique i p prim)

end Keyed

end CsgPreview.Csg
