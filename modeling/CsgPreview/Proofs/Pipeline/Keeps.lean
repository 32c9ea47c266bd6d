import Mathlib
import CsgPreview.Error
import CsgPreview.Log

/-!
Invariants of the state kept by steps that may fail and log.

The evaluation walk and the exact render are both steps over a state of their own that may fail
with a pipeline error and log diagnostics. A step *keeps* an invariant `P` with results in `Q`
when every successful run of it from a state in `P` ends in a state in `P` with a result in `Q`.
A failed run promises nothing: a failure ends the whole computation. Keeping composes through
`bind`, and a loop over a list keeps what each of its rounds keeps, so the specification of a
recursive walk is assembled from one lemma per step.
-/

namespace CsgPreview

open Std.Do

/-- A step over a state `σ` that may fail and logs. -/
abbrev Step (σ α : Type) := ExceptT PipelineError (StateT σ Logged) α

variable {σ α β : Type}

/-- Every successful run of `x` from a state in `P` ends in a state in `P` with a result in
`Q`. -/
def Keeps (P : σ → Prop) (x : Step σ α) (Q : α → Prop) : Prop :=
  ∀ s log a s', P s → ((x.run.run s).run log).run.1 = (.ok a, s') → P s' ∧ Q a

/-! ### Runs of the basic steps -/

section Runs

variable (s : σ) (log : Array LogRecord)

@[simp] theorem Step.run_pure (a : α) :
    (((Pure.pure a : Step σ α).run.run s).run log).run = ((.ok a, s), log) := rfl

@[simp] theorem Step.run_throw (e : PipelineError) :
    (((throw e : Step σ α).run.run s).run log).run = ((.error e, s), log) := rfl

@[simp] theorem Step.run_modify (f : σ → σ) :
    (((modify f : Step σ Unit).run.run s).run log).run = ((.ok (), f s), log) := rfl

@[simp] theorem Step.run_get_bind (f : σ → Step σ β) :
    ((((get : Step σ σ) >>= f).run.run s).run log).run = (((f s).run.run s).run log).run := rfl

@[simp] theorem Step.run_set_bind (s' : σ) (f : PUnit → Step σ β) :
    ((((set s' : Step σ PUnit) >>= f).run.run s).run log).run =
      (((f ()).run.run s').run log).run := rfl

@[simp] theorem Step.run_lift_bind (x : Logged α) (f : α → Step σ β) :
    (((((x : Step σ α)) >>= f).run.run s).run log).run =
      (((f (x.run log).run.1).run.run s).run (x.run log).run.2).run := rfl

variable {s log} {x : Step σ α} {f : α → Step σ β} {s₁ : σ} {log₁ : Array LogRecord}

theorem Step.run_bind_of_ok {a : α} (h : ((x.run.run s).run log).run = ((.ok a, s₁), log₁)) :
    (((x >>= f).run.run s).run log).run = (((f a).run.run s₁).run log₁).run := by
  simp [ExceptT.run_bind, StateT.run_bind, h]

theorem Step.run_bind_of_error {e : PipelineError}
    (h : ((x.run.run s).run log).run = ((.error e, s₁), log₁)) :
    (((x >>= f).run.run s).run log).run = ((.error e, s₁), log₁) := by
  simp [ExceptT.run_bind, StateT.run_bind, h]

end Runs

/-! ### Composing steps -/

variable {P : σ → Prop} {Q Q' : α → Prop}

theorem Keeps.pure {a : α} (ha : Q a) : Keeps P (Pure.pure a : Step σ α) Q := by
  intro s log a' s' hs h
  simp only [Step.run_pure, Prod.mk.injEq, Except.ok.injEq] at h
  obtain ⟨rfl, rfl⟩ := h
  exact ⟨hs, ha⟩

theorem Keeps.bind {x : Step σ α} {f : α → Step σ β} {Q₂ : β → Prop} (hx : Keeps P x Q)
    (hf : ∀ a, Q a → Keeps P (f a) Q₂) : Keeps P (x >>= f) Q₂ := by
  intro s log b s' hs h
  rcases hfirst : ((x.run.run s).run log).run with ⟨⟨r, s₁⟩, log₁⟩
  cases r with
  | error e =>
    rw [Step.run_bind_of_error hfirst] at h
    simp at h
  | ok a =>
    have ⟨hs₁, ha⟩ := hx s log a s₁ hs (by rw [hfirst])
    exact hf a ha s₁ log₁ b s' hs₁ (by rwa [Step.run_bind_of_ok hfirst] at h)

theorem Keeps.mono {x : Step σ α} (h : Keeps P x Q) (hQ : ∀ a, Q a → Q' a) : Keeps P x Q' :=
  fun s log a s' hs run => (h s log a s' hs run).imp_right (hQ a)

theorem Keeps.throw (e : PipelineError) : Keeps P (throw e : Step σ α) Q := by
  intro s log a s' _ h
  simp at h

theorem Keeps.modify {f : σ → σ} (hf : ∀ s, P s → P (f s)) :
    Keeps P (modify f : Step σ Unit) (fun _ => True) := by
  intro s log a s' hs h
  simp only [Step.run_modify, Prod.mk.injEq] at h
  exact ⟨h.2 ▸ hf s hs, trivial⟩

theorem Keeps.discard {x : Step σ α} (h : Keeps P x Q) :
    Keeps P (Functor.discard x) (fun _ => True) := by
  have hdiscard : Functor.discard x = x >>= fun _ => Pure.pure PUnit.unit := by
    simp only [Functor.discard, map_const]
    rfl
  rw [hdiscard]
  exact h.bind fun _ _ => .pure trivial

theorem Step.run_of_triple {x : Step σ α} {R : α → σ → Prop} {E : PipelineError → σ → Prop}
    (h : ⦃fun s _ => ⌜P s⌝⦄ x ⦃post⟨fun a s _ => ⌜R a s⌝, fun e s _ => ⌜E e s⌝⟩⦄) {s : σ}
    (hs : P s) (log : Array LogRecord) :
    match ((x.run.run s).run log).run.1 with
    | (.ok a, s') => R a s'
    | (.error e, s') => E e s' := by
  have hpost := h s log hs
  simp only [WP.wp, PredTrans.pushExcept, PredTrans.pushArg, PredTrans.apply, StateT.run,
    PredTrans.pure, Pure.pure] at hpost
  split
  next a s' run =>
    have outcome : (ExceptT.run x s log).run.1 = (.ok a, s') := run
    rw [outcome] at hpost
    exact hpost
  next e s' run =>
    have outcome : (ExceptT.run x s log).run.1 = (.error e, s') := run
    rw [outcome] at hpost
    exact hpost

theorem Keeps.of_triple {x : Step σ α}
    (h : ⦃fun s _ => ⌜P s⌝⦄ x ⦃post⟨fun a s _ => ⌜P s ∧ Q a⌝, fun _ _ _ => ⌜True⌝⟩⦄) :
    Keeps P x Q := by
  intro s log a s' hs run
  have outcome := Step.run_of_triple h hs log
  rw [run] at outcome
  exact outcome

/-! ### Loops over a list -/

theorem Keeps.forM_list {xs : List α} {f : α → Step σ PUnit}
    (hround : ∀ x ∈ xs, Keeps P (f x) (fun _ => True)) :
    Keeps P (xs.forM f) (fun _ => True) := by
  induction xs with
  | nil => exact .pure trivial
  | cons x rest ih =>
    exact (hround x List.mem_cons_self).bind
      fun _ _ => ih fun y mem => hround y (List.mem_cons_of_mem x mem)

end CsgPreview
