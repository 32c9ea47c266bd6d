import Mathlib
import CsgPreview.Csg.Evaluate

/-!
What a step of the evaluation walk guarantees when it succeeds.

A step `x` is *sound* for a relation `R` between walk states and a predicate `Q` on results when
every successful run of it, from any state and log, leaves a state that `R` relates to the one it
started in and gives back a value satisfying `Q`. A failed run promises nothing: a failure ends
the evaluation it belongs to. Soundness composes through `bind` by composing the relations, so a
specification of the whole walk is assembled from one lemma per step.

The steps that only count progress or fill the preview cache keep the overlays as they are.
-/

namespace CsgPreview.Csg

open CsgPreview.Geometry Scene Cache Pipeline

/-- Every successful run of `x` relates its first and last state by `R` and gives back a value
satisfying `Q`. -/
def Walking.Sound {α : Type} (x : Walking α) (R : Walk → Walk → Prop) (Q : α → Prop) : Prop :=
  ∀ w log a w', ((x.run.run w).run log).run.1 = (.ok a, w') → R w w' ∧ Q a

variable {α β : Type} {R R' R₁ R₂ : Walk → Walk → Prop} {Q Q' : α → Prop}

/-! ### Runs of the basic steps -/

section Runs

variable (w : Walk) (log : Array LogRecord)

@[simp] theorem Walking.run_pure (a : α) :
    (((Pure.pure a : Walking α).run.run w).run log).run = ((.ok a, w), log) := rfl

@[simp] theorem Walking.run_throw (e : PipelineError) :
    (((throw e : Walking α).run.run w).run log).run = ((.error e, w), log) := rfl

@[simp] theorem Walking.run_modify (f : Walk → Walk) :
    (((modify f : Walking Unit).run.run w).run log).run = ((.ok (), f w), log) := rfl

@[simp] theorem Walking.run_modify_bind (f : Walk → Walk) (k : Unit → Walking β) :
    ((((modify f : Walking Unit) >>= k).run.run w).run log).run =
      (((k ()).run.run (f w)).run log).run := rfl

@[simp] theorem Walking.run_get_bind (f : Walk → Walking β) :
    ((((get : Walking Walk) >>= f).run.run w).run log).run = (((f w).run.run w).run log).run := rfl

@[simp] theorem Walking.run_set_bind (w' : Walk) (f : PUnit → Walking β) :
    ((((set w' : Walking PUnit) >>= f).run.run w).run log).run =
      (((f ()).run.run w').run log).run := rfl

@[simp] theorem Walking.run_lift_bind (x : Logged α) (f : α → Walking β) :
    (((((x : Walking α)) >>= f).run.run w).run log).run =
      (((f (x.run log).run.1).run.run w).run (x.run log).run.2).run := rfl

variable {w log} {x : Walking α} {f : α → Walking β} {w₁ : Walk} {log₁ : Array LogRecord}

theorem Walking.run_bind_of_ok {a : α} (h : ((x.run.run w).run log).run = ((.ok a, w₁), log₁)) :
    (((x >>= f).run.run w).run log).run = (((f a).run.run w₁).run log₁).run := by
  simp [ExceptT.run_bind, StateT.run_bind, h]

theorem Walking.run_bind_of_error {e : PipelineError}
    (h : ((x.run.run w).run log).run = ((.error e, w₁), log₁)) :
    (((x >>= f).run.run w).run log).run = ((.error e, w₁), log₁) := by
  simp [ExceptT.run_bind, StateT.run_bind, h]

end Runs

/-! ### Composing steps -/

theorem Walking.Sound.pure {a : α} (hR : ∀ w, R w w) (ha : Q a) :
    Walking.Sound (Pure.pure a : Walking α) R Q := by
  intro w log a' w' h
  simp only [Walking.run_pure, Prod.mk.injEq, Except.ok.injEq] at h
  obtain ⟨rfl, rfl⟩ := h
  exact ⟨hR w, ha⟩

theorem Walking.Sound.bind {x : Walking α} {f : α → Walking β} {Q₂ : β → Prop}
    (hx : Walking.Sound x R₁ Q) (hf : ∀ a, Q a → Walking.Sound (f a) R₂ Q₂)
    (hR : ∀ w₁ w₂ w₃, R₁ w₁ w₂ → R₂ w₂ w₃ → R w₁ w₃) : Walking.Sound (x >>= f) R Q₂ := by
  intro w log b w' h
  rcases hfirst : ((x.run.run w).run log).run with ⟨⟨r, w₁⟩, log₁⟩
  cases r with
  | error e =>
    rw [Walking.run_bind_of_error hfirst] at h
    simp at h
  | ok a =>
    have ⟨h₁, ha⟩ := hx w log a w₁ (by rw [hfirst])
    have ⟨h₂, hb⟩ := hf a ha w₁ log₁ b w' (by rwa [Walking.run_bind_of_ok hfirst] at h)
    exact ⟨hR _ _ _ h₁ h₂, hb⟩

theorem Walking.Sound.mono {x : Walking α} (h : Walking.Sound x R Q)
    (hR : ∀ w w', R w w' → R' w w') (hQ : ∀ a, Q a → Q' a) : Walking.Sound x R' Q' :=
  fun w log a w' run => (h w log a w' run).imp (hR w w') (hQ a)

theorem Walking.Sound.throw (e : PipelineError) : Walking.Sound (throw e : Walking α) R Q := by
  intro w log a w' h
  simp at h

theorem Walking.Sound.modify (f : Walk → Walk) :
    Walking.Sound (modify f : Walking Unit) (fun w w' => w' = f w) (fun _ => True) := by
  intro w log a w' h
  simp only [Walking.run_modify, Prod.mk.injEq] at h
  exact ⟨h.2.symm, trivial⟩

theorem Walking.Sound.discard {x : Walking α} (h : Walking.Sound x R Q) :
    Walking.Sound (Functor.discard x) R (fun _ => True) := by
  have hdiscard : Functor.discard x = x >>= fun _ => Pure.pure PUnit.unit := by
    simp only [Functor.discard, map_const]
    rfl
  rw [hdiscard]
  exact h.bind (fun _ _ => Walking.Sound.pure (R := fun w w' => w' = w) (fun _ => rfl) trivial)
    fun _ _ _ h₁ h₂ => h₂ ▸ h₁

/-! ### Steps that keep the overlays -/

/-- The two states hold the same highlights and backgrounds. -/
def Walk.SameOverlays (w w' : Walk) : Prop :=
  w'.highlights = w.highlights ∧ w'.backgrounds = w.backgrounds

theorem Walk.SameOverlays.refl (w : Walk) : w.SameOverlays w := ⟨rfl, rfl⟩

theorem Walk.SameOverlays.trans {w₁ w₂ w₃ : Walk} (h₁ : w₁.SameOverlays w₂)
    (h₂ : w₂.SameOverlays w₃) : w₁.SameOverlays w₃ :=
  ⟨h₂.1.trans h₁.1, h₂.2.trans h₁.2⟩

theorem markDone_sound (done : Nat) :
    Walking.Sound (markDone done) Walk.SameOverlays (fun _ => True) :=
  (Walking.Sound.modify _).mono (fun _ _ h => h ▸ ⟨rfl, rfl⟩) fun _ h => h

theorem Walking.run_walkCheckpoint_bind (w : Walk) (log : Array LogRecord) (f : Unit → Walking β) :
    (((walkCheckpoint >>= f).run.run w).run log).run =
      if w.cancel.isCancelled then ((.error .cancelled, w), log)
      else (((f ()).run.run { w with cancel := w.cancel.after 1 }).run log).run := by
  simp only [walkCheckpoint, bind_assoc, Walking.run_get_bind]
  split <;> rfl

theorem Walking.run_walkCheckpoint (w : Walk) (log : Array LogRecord) :
    ((walkCheckpoint.run.run w).run log).run =
      if w.cancel.isCancelled then ((.error .cancelled, w), log)
      else ((.ok (), { w with cancel := w.cancel.after 1 }), log) := by
  have run := Walking.run_walkCheckpoint_bind w log Pure.pure
  rwa [bind_pure] at run

theorem walkCheckpoint_sound : Walking.Sound walkCheckpoint Walk.SameOverlays (fun _ => True) := by
  intro w log _ w' h
  rw [Walking.run_walkCheckpoint] at h
  split at h
  · simp at h
  · simp only [Prod.mk.injEq] at h
    exact ⟨h.2 ▸ ⟨rfl, rfl⟩, trivial⟩

theorem leafGeometry_sound (key : String) (p : Primitive) :
    Walking.Sound (leafGeometry key p) Walk.SameOverlays (fun _ => True) := by
  unfold leafGeometry
  refine walkCheckpoint_sound.bind (fun _ _ => ?_) fun _ _ _ => .trans
  intro w log g w' h
  rw [Walking.run_get_bind] at h
  -- a hit and a miss both store the cache and keep everything else of the state
  split at h
  · simp only [Walking.run_set_bind, Walking.run_pure, Prod.mk.injEq, Except.ok.injEq] at h
    exact ⟨h.2 ▸ ⟨rfl, rfl⟩, trivial⟩
  · simp only [Walking.run_set_bind, Walking.run_walkCheckpoint_bind] at h
    split at h
    · simp at h
    · simp only [Walking.run_lift_bind, Walking.run_modify_bind, Walking.run_pure, Prod.mk.injEq,
        Except.ok.injEq] at h
      exact ⟨h.2 ▸ ⟨rfl, rfl⟩, trivial⟩

theorem primitiveTerm_sound (tree : SceneTree) (origin index : Nat) (p : Primitive)
    (matrix : Mat4) (color : Option Rgba) :
    Walking.Sound (primitiveTerm tree origin index p matrix color) Walk.SameOverlays
      (fun r => ∃ g, r = Term.ofLeaf ⟨g, matrix, color, leafLabel (tree.key index), index⟩) := by
  unfold primitiveTerm
  refine (leafGeometry_sound _ _).bind (fun g _ => ?_) fun _ _ _ => .trans
  exact (markDone_sound _).bind (fun _ _ => .pure Walk.SameOverlays.refl ⟨g, rfl⟩)
    fun _ _ _ => .trans

end CsgPreview.Csg
