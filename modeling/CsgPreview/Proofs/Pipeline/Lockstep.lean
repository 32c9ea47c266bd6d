import Mathlib
import CsgPreview.Proofs.Pipeline.Keeps

/-!
Two runs of one computation that cannot tell their states apart.

A computation over a state `σ` that logs runs *in lockstep* for a relation `R` between states
when two runs of it, from related states and each after any diagnostics, give the same value and
end in related states. Lockstep composes through `bind` when the continuations are in lockstep
at every value, and through loops when the bodies are. Reading the state is where the two runs
see different things: what follows a read must be in lockstep at every related pair.

A logged computation that never reads its diagnostics back is *blind*: its value does not depend
on what was logged before it.
-/

namespace CsgPreview

variable {σ α β : Type}

/-! ### Logged computations that do not read their diagnostics -/

/-- The value of `x` is the same whatever diagnostics came before it. -/
def Logged.Blind (x : Logged α) : Prop := ∀ log log', (x.run log).run.1 = (x.run log').run.1

namespace Logged.Blind

theorem pure (a : α) : Logged.Blind (Pure.pure a : Logged α) := fun _ _ => rfl

theorem bind {x : Logged α} {f : α → Logged β} (hx : x.Blind) (hf : ∀ a, (f a).Blind) :
    (x >>= f).Blind := by
  intro log log'
  show ((f (x.run log).run.1).run (x.run log).run.2).run.1 =
    ((f (x.run log').run.1).run (x.run log').run.2).run.1
  rw [hx log log']
  exact hf _ _ _

theorem report (level : LogLevel) (source : LogSource) (message : String) :
    (CsgPreview.report level source message).Blind := fun _ _ => rfl

end Logged.Blind

/-! ### Runs in lockstep -/

/-- Runs of `x` and `y` from states related by `R`, each after any diagnostics, give the same
value and end in related states. -/
def Lockstep (R : σ → σ → Prop) (x y : StateT σ Logged α) : Prop :=
  ∀ s s' log log', R s s' →
    ((x.run s).run log).run.1.1 = ((y.run s').run log').run.1.1 ∧
      R ((x.run s).run log).run.1.2 ((y.run s').run log').run.1.2

section Runs

variable (s : σ) (log : Array LogRecord)

theorem StateT.run_bind_logged (x : StateT σ Logged α) (f : α → StateT σ Logged β) :
    (((x >>= f).run s).run log).run =
      (((f ((x.run s).run log).run.1.1).run ((x.run s).run log).run.1.2).run
        ((x.run s).run log).run.2).run := rfl

theorem StateT.run_get_bind_logged (f : σ → StateT σ Logged β) :
    (((get >>= f).run s).run log).run = (((f s).run s).run log).run := rfl

theorem StateT.run_modify_logged (f : σ → σ) :
    (((modify f : StateT σ Logged PUnit).run s).run log).run = (((), f s), log) := rfl

theorem StateT.run_lift_logged (x : Logged α) :
    (((liftM x : StateT σ Logged α).run s).run log).run =
      (((x.run log).run.1, s), (x.run log).run.2) := rfl

end Runs

namespace Lockstep

variable {R : σ → σ → Prop}

theorem pure (a : α) : Lockstep R (Pure.pure a) (Pure.pure a) := fun _ _ _ _ h => ⟨rfl, h⟩

theorem bind {x y : StateT σ Logged α} {f g : α → StateT σ Logged β} (hxy : Lockstep R x y)
    (hfg : ∀ a, Lockstep R (f a) (g a)) : Lockstep R (x >>= f) (y >>= g) := by
  intro s s' log log' h
  obtain ⟨same, related⟩ := hxy s s' log log' h
  rw [StateT.run_bind_logged, StateT.run_bind_logged, same]
  exact hfg _ _ _ _ _ related

theorem get_bind {f g : σ → StateT σ Logged β} (hfg : ∀ s s', R s s' → Lockstep R (f s) (g s')) :
    Lockstep R (get >>= f) (get >>= g) := by
  intro s s' log log' h
  rw [StateT.run_get_bind_logged, StateT.run_get_bind_logged]
  exact hfg s s' h s s' log log' h

theorem modify_state {f g : σ → σ} (hfg : ∀ s s', R s s' → R (f s) (g s')) :
    Lockstep R (modify f) (modify g) := by
  intro s s' log log' h
  rw [StateT.run_modify_logged, StateT.run_modify_logged]
  exact ⟨rfl, hfg s s' h⟩

theorem lift {x : Logged α} (blind : x.Blind) :
    Lockstep R (liftM x : StateT σ Logged α) (liftM x) := by
  intro s s' log log' h
  rw [StateT.run_lift_logged, StateT.run_lift_logged]
  exact ⟨blind log log', h⟩

theorem map (f : α → β) {x y : StateT σ Logged α} (hxy : Lockstep R x y) :
    Lockstep R (f <$> x) (f <$> y) :=
  hxy.bind fun a => .pure (f a)

theorem lift_unit {x y : Logged Unit} : Lockstep R (liftM x : StateT σ Logged Unit) (liftM y) := by
  intro s s' log log' h
  rw [StateT.run_lift_logged, StateT.run_lift_logged]
  exact ⟨rfl, h⟩

/-! ### Steps that may fail -/

theorem step_bind {x y : Step σ α} {f g : α → Step σ β} (hxy : Lockstep R x.run y.run)
    (hfg : ∀ a, Lockstep R (f a).run (g a).run) : Lockstep R (x >>= f).run (y >>= g).run := by
  rw [ExceptT.run_bind, ExceptT.run_bind]
  refine hxy.bind fun r => ?_
  cases r with
  | ok a => exact hfg a
  | error e => exact .pure _

theorem step_throw_bind (e : PipelineError) {f g : α → Step σ β} :
    Lockstep R (throw e >>= f).run (throw e >>= g).run := fun _ _ _ _ h => ⟨rfl, h⟩

theorem step_lift {x y : StateT σ Logged α} (hxy : Lockstep R x y) :
    Lockstep R (ExceptT.lift x : Step σ α).run (ExceptT.lift y : Step σ α).run := by
  rw [ExceptT.run_lift, ExceptT.run_lift]
  exact hxy.map _

theorem step_get_bind {f g : σ → Step σ β} (hfg : ∀ s s', R s s' → Lockstep R (f s).run (g s').run) :
    Lockstep R ((get : Step σ σ) >>= f).run ((get : Step σ σ) >>= g).run := by
  intro s s' log log' h
  rw [Step.run_get_bind, Step.run_get_bind]
  exact hfg s s' h s s' log log' h

theorem step_modify {f g : σ → σ} (hfg : ∀ s s', R s s' → R (f s) (g s')) :
    Lockstep R (modify f : Step σ PUnit).run (modify g : Step σ PUnit).run := by
  intro s s' log log' h
  rw [Step.run_modify, Step.run_modify]
  exact ⟨rfl, hfg s s' h⟩

theorem step_forIn {xs : List α} {b : β} {f g : α → β → Step σ (ForInStep β)}
    (hfg : ∀ a b, Lockstep R (f a b).run (g a b).run) :
    Lockstep R (forIn xs b f).run (forIn xs b g).run := by
  induction xs generalizing b with
  | nil => exact .pure _
  | cons a rest ih =>
    rw [List.forIn_cons, List.forIn_cons]
    refine step_bind (hfg a b) fun r => ?_
    cases r with
    | done b' => exact .pure _
    | yield b' => exact ih

theorem step_forIn_array {xs : Array α} {b : β} {f g : α → β → Step σ (ForInStep β)}
    (hfg : ∀ a b, Lockstep R (f a b).run (g a b).run) :
    Lockstep R (forIn xs b f).run (forIn xs b g).run := by
  rw [← Array.forIn_toList, ← Array.forIn_toList]
  exact step_forIn hfg

theorem step_lift_bind_rel {x y : Logged α} {f g : α → Step σ β} (Q : α → α → Prop)
    (hxy : ∀ log log', Q (x.run log).run.1 (y.run log').run.1)
    (hfg : ∀ a b, Q a b → Lockstep R (f a).run (g b).run) :
    Lockstep R ((x : Step σ α) >>= f).run ((y : Step σ α) >>= g).run := by
  intro s s' log log' h
  rw [Step.run_lift_bind, Step.run_lift_bind]
  exact hfg _ _ (hxy log log') s s' _ _ h

theorem step_forM {xs : List α} {f g : α → Step σ PUnit}
    (hfg : ∀ a ∈ xs, Lockstep R (f a).run (g a).run) : Lockstep R (xs.forM f).run (xs.forM g).run := by
  induction xs with
  | nil => exact .pure _
  | cons a rest ih =>
    show Lockstep R (f a >>= fun _ => rest.forM f).run (g a >>= fun _ => rest.forM g).run
    exact step_bind (hfg a List.mem_cons_self) fun _ =>
      ih fun a' mem => hfg a' (List.mem_cons_of_mem a mem)

theorem step_discard {x y : Step σ α} (hxy : Lockstep R x.run y.run) :
    Lockstep R (Functor.discard x).run (Functor.discard y).run := by
  have hdiscard : ∀ z : Step σ α, Functor.discard z = z >>= fun _ => Pure.pure PUnit.unit := by
    intro z
    simp only [Functor.discard, map_const]
    rfl
  rw [hdiscard, hdiscard]
  exact step_bind hxy fun _ => .pure _

end Lockstep

end CsgPreview
