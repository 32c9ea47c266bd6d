import Mathlib
import CsgPreview.Proofs.Scene.Arena

/-!
Instantiation ends on every design.

`instantiateCall` recurses on the user module calls still allowed on the path, then on how many
callers `children()` can still climb, then on the size of the statement, so every run ends. What
is proved here is how it ends (`instantiate_outcome`): with a tree in pre-order, for want of a
top-level object, or with the recursion error, the only error a call raises
(`instantiateCall_bare`). A user module call meets that error when `maxModuleDepth` calls are
open (`instantiateCall_refused`). The count of open calls is handed down to the calls a body makes
and never kept, so with fewer calls open a call that succeeds succeeds alike
(`instantiateCall_keepsSuccess`). A module whose body starts by calling itself always reaches the
bound (`instantiateCall_self_call`); for that, the scope of a call finds the modules its caller
finds, but those its body defines.
-/

namespace CsgPreview

theorem Logged.foldlM_keeps {α β γ : Type} {f : β → α → Logged β} (view : β → γ)
    (keeps : ∀ b a log, view ((f b a).run log).run.1 = view b) :
    ∀ (as : List α) (b : β) (log : Array LogRecord), view ((as.foldlM f b).run log).run.1 = view b
  | [], _, _ => rfl
  | a :: as, b, log => by
    rw [List.foldlM_cons, StateT.run_bind, Id.run_bind]
    exact (Logged.foldlM_keeps view keeps as _ _).trans (keeps b a log)

end CsgPreview

namespace CsgPreview.Script

/-! ### Module lookups through calls -/

theorem find?_bindModule (def_ : ModuleDef) (name : String) (defs : List ModuleDef) :
    (bindModule def_ defs).find? (·.name == name) =
      if def_.name == name then some def_ else defs.find? (·.name == name) := by
  induction defs with
  | nil => simp [bindModule, List.find?]
  | cons d rest ih =>
    simp only [bindModule]
    by_cases same : d.name == def_.name
    · simp [same, List.find?]
      grind
    · simp [same, List.find?, ih]
      grind

namespace Scope

theorem findModule?_defineModule (s : Scope) (def_ : ModuleDef) (name : String) :
    (s.defineModule def_).findModule? name =
      if def_.name == name then some def_ else s.findModule? name := by
  unfold defineModule findModule?
  split
  next frames => cases same : def_.name == name <;> simp [same, frames, List.find?]
  next f rest frames =>
    rw [frames, List.findSome?_cons, List.findSome?_cons, find?_bindModule]
    cases def_.name == name <;> rfl

@[simp] theorem findModule?_setVariable (s : Scope) (x : String) (v : Value) (name : String) :
    (s.setVariable x v).findModule? name = s.findModule? name := by
  unfold setVariable findModule?
  split <;> simp_all [List.findSome?_cons]

@[simp] theorem findModule?_child (s : Scope) (name : String) :
    s.child.findModule? name = s.findModule? name := by
  simp [child, findModule?, List.findSome?_cons]

@[simp] theorem findModule?_withCaller (s : Scope) (body : Body) (callerScope : Scope)
    (name : String) : (s.withCaller body callerScope).findModule? name = s.findModule? name := rfl

theorem findModule?_foldl_defineModule {name : String} (defs : List ModuleDef)
    (unshadowed : ∀ d ∈ defs, d.name ≠ name) (s : Scope) :
    (defs.foldl defineModule s).findModule? name = s.findModule? name := by
  induction defs generalizing s with
  | nil => rfl
  | cons d rest ih =>
    rw [List.foldl_cons, ih (fun d' mem => unshadowed d' (List.mem_cons_of_mem d mem)),
      findModule?_defineModule]
    simp [unshadowed d List.mem_cons_self]

theorem findModule?_bindBody (s : Scope) (body : Body) {name : String}
    (unshadowed : ∀ d ∈ body.definitions, d.name ≠ name) (log : Array LogRecord) :
    ((s.bindBody body).run log).run.1.findModule? name = s.findModule? name := by
  unfold bindBody
  calc _ = (body.definitions.foldl defineModule s).findModule? name :=
        Logged.foldlM_keeps (fun t : Scope => t.findModule? name) (fun b a log => by simp) _ _ log
    _ = s.findModule? name := findModule?_foldl_defineModule _ unshadowed s

theorem findModule?_bindParams (args : Arguments) (name : String) (params : List Parameter) :
    ∀ (scope : Scope) (positional : List Value) (log : Array LogRecord),
      ((callScope.bindParams args scope positional params).run log).run.1.findModule? name =
        scope.findModule? name := by
  induction params with
  | nil => intro scope positional log; rfl
  | cons p ps ih =>
    intro scope positional log
    simp only [callScope.bindParams]
    split
    · simp [ih]
    · split
      · simp [ih]
      · split <;> simp [ih]

theorem findModule?_foldl_setVariable (name : String) (bound : String → Bool)
    (pairs : List (String × Value)) (s : Scope) :
    (pairs.foldl (fun s nv => if bound nv.1 then s.setVariable nv.1 nv.2 else s) s).findModule?
      name = s.findModule? name := by
  induction pairs generalizing s with
  | nil => rfl
  | cons pair rest ih =>
    obtain ⟨n, v⟩ := pair
    rw [List.foldl_cons, ih]
    by_cases dollar : bound n <;> simp [dollar]

theorem findModule?_callScope (s : Scope) (def_ : ModuleDef) (arguments : List Argument)
    (name : String) (log : Array LogRecord) :
    ((s.callScope def_ arguments).run log).run.1.findModule? name = s.findModule? name := by
  simp only [callScope, StateT.run_bind, Id.run_bind, StateT.run_pure, Id.run_pure]
  rw [findModule?_foldl_setVariable name (·.startsWith "$"), findModule?_bindParams,
    findModule?_child]

end Scope

end CsgPreview.Script

namespace CsgPreview.Scene

open Script

/-! ### The bound on open calls -/

theorem Instantiating.run_liftM_bind {α β : Type} (m : Logged α) (f : α → Instantiating β)
    (log : Array LogRecord) :
    ((liftM m >>= f : Instantiating β).run.run log).run =
      ((f (m.run log).run.1).run.run (m.run log).run.2).run := rfl

theorem Instantiating.run_bind_of_error {α β : Type} {x : Instantiating α} {f : α → Instantiating β}
    {log log' : Array LogRecord} {e : PipelineError}
    (failed : (x.run.run log).run = (.error e, log')) :
    ((x >>= f).run.run log).run = (.error e, log') := by
  simp only [ExceptT.run_bind, StateT.run_bind, Id.run_bind, failed]
  rfl

theorem instantiateCall_refused {depth : Nat} {scope : Scope} {inst : Instantiation}
    {def_ : ModuleDef} (named : inst.name ≠ "children")
    (found : scope.findModule? inst.name = some def_) (deep : maxModuleDepth ≤ depth)
    (log : Array LogRecord) :
    ((instantiateCall depth scope inst).run.run log).run =
      (.error (recursionError inst.name), log) := by
  rw [instantiateCall]
  simp [named, found, deep]

theorem instantiateCall_of_lt {depth : Nat} {scope : Scope} {inst : Instantiation}
    {def_ : ModuleDef} (named : inst.name ≠ "children")
    (found : scope.findModule? inst.name = some def_) (shallow : depth < maxModuleDepth) :
    instantiateCall depth scope inst = (do
      let called ← scope.callScope def_ inst.arguments
      let called ← (called.withCaller inst.children scope).bindBody def_.body
      let made ← def_.body.instantiations.mapM (instantiateCall (depth + 1) called)
      pure [.node .group inst.modifiers inst.position made.flatten]) := by
  rw [instantiateCall]
  simp [named, found, Nat.not_le.2 shallow]

/-! ### Open calls only bound the nesting -/

/-- `y` succeeds wherever `x` does, with the same value and the same diagnostics. -/
def Instantiating.KeepsSuccess {α : Type} (x y : Instantiating α) : Prop :=
  ∀ log a log', (x.run.run log).run = (.ok a, log') → (y.run.run log).run = (.ok a, log')

namespace Instantiating.KeepsSuccess

variable {α β : Type}

theorem refl (x : Instantiating α) : x.KeepsSuccess x := fun _ _ _ ran => ran

theorem of_throw (e : PipelineError) (y : Instantiating α) :
    (throw e : Instantiating α).KeepsSuccess y :=
  fun _ _ _ ran => nomatch ran

theorem bind {x y : Instantiating α} {f g : α → Instantiating β} (hxy : x.KeepsSuccess y)
    (hfg : ∀ a, (f a).KeepsSuccess (g a)) : (x >>= f).KeepsSuccess (y >>= g) := by
  intro log b log' ran
  simp only [ExceptT.run_bind, StateT.run_bind, Id.run_bind] at ran ⊢
  cases first : (x.run.run log).run with
  | mk r mid =>
    cases r with
    | error e => simp [first] at ran
    | ok a =>
      rw [hxy log a mid first]
      simp only [first] at ran
      exact hfg a mid b log' ran

theorem mapM {f g : α → Instantiating β} :
    ∀ {xs : List α}, (∀ a ∈ xs, (f a).KeepsSuccess (g a)) → (xs.mapM f).KeepsSuccess (xs.mapM g)
  | [], _ => refl _
  | a :: rest, each => by
    rw [List.mapM_cons, List.mapM_cons]
    exact bind (each a List.mem_cons_self) fun b =>
      bind (mapM fun a' mem => each a' (List.mem_cons_of_mem a mem)) fun _ => refl _

end Instantiating.KeepsSuccess

open Instantiating in
theorem instantiateCall_keepsSuccess (depth : Nat) (scope : Scope) (inst : Instantiation) :
    ∀ d ≤ depth,
      (instantiateCall depth scope inst).KeepsSuccess (instantiateCall d scope inst) := by
  fun_induction instantiateCall depth scope inst with
  | case1 depth scope inst named none =>
    intro d _
    rw [instantiateCall, if_pos named]
    split
    · exact KeepsSuccess.refl _
    · simp_all
  | case2 depth scope inst named body callerScope caller ih =>
    intro d le
    rw [instantiateCall, if_pos named]
    split
    · simp_all
    · rename_i body' callerScope' caller'
      obtain ⟨rfl, rfl⟩ : body = body' ∧ callerScope = callerScope' := by simp_all
      refine KeepsSuccess.bind (.refl _) fun args => KeepsSuccess.bind (.refl _) fun entered => ?_
      dsimp only
      -- the same children are selected; each is instantiated with fewer calls open
      cases selectedChildren args with
      | some indices =>
        refine KeepsSuccess.bind (KeepsSuccess.mapM fun i _ => ?_) fun _ => .refl _
        cases body.instantiations[i]? with
        | some child => exact ih entered child d le
        | none => exact .refl _
      | none =>
        exact KeepsSuccess.bind (KeepsSuccess.mapM fun child _ => ih entered child d le)
          fun _ => .refl _
  | case3 depth scope inst named def_ found deep =>
    intro d _
    exact KeepsSuccess.of_throw _ _
  | case4 depth scope inst named def_ found shallow ih =>
    intro d le
    rw [instantiateCall_of_lt (by simpa using named) found (by omega)]
    refine KeepsSuccess.bind (.refl _) fun called => KeepsSuccess.bind (.refl _) fun called => ?_
    exact KeepsSuccess.bind (KeepsSuccess.mapM fun child _ => ih called child (d + 1) (by omega))
      fun _ => .refl _
  | case5 depth scope inst named unknown ih =>
    intro d le
    rw [instantiateCall, if_neg named, unknown]
    dsimp only
    refine KeepsSuccess.bind (.refl _) fun args => KeepsSuccess.bind (.refl _) fun kind => ?_
    cases kind with
    | none => exact .refl _
    | some kind =>
      dsimp only
      split
      · exact .refl _
      · refine KeepsSuccess.bind (.refl _) fun entered => ?_
        exact KeepsSuccess.bind (KeepsSuccess.mapM fun child mem => ih args entered child mem d le)
          fun _ => .refl _

/-! ### Unbounded recursion reaches the bound -/

section SelfCall

variable {def_ : ModuleDef} {first : Instantiation} {rest : List Instantiation}

theorem instantiateCall_self_call (named : def_.name ≠ "children")
    (starts : def_.body.instantiations = first :: rest) (calls : first.name = def_.name)
    (unshadowed : ∀ d ∈ def_.body.definitions, d.name ≠ def_.name)
    (depth : Nat) (scope : Scope) (inst : Instantiation) (callsDef : inst.name = def_.name)
    (found : scope.findModule? def_.name = some def_) (log : Array LogRecord) :
    ∃ log', ((instantiateCall depth scope inst).run.run log).run =
      (.error (recursionError def_.name), log') := by
  have calledHere : inst.name ≠ "children" := callsDef ▸ named
  have foundHere : scope.findModule? inst.name = some def_ := callsDef ▸ found
  by_cases deep : maxModuleDepth ≤ depth
  · exact ⟨log, callsDef ▸ instantiateCall_refused calledHere foundHere deep log⟩
  · rw [instantiateCall_of_lt calledHere foundHere (Nat.lt_of_not_le deep),
      Instantiating.run_liftM_bind, Instantiating.run_liftM_bind, starts, List.mapM_cons]
    generalize entered : ((scope.callScope def_ inst.arguments).run log).run = called
    generalize bodyBound : (((called.1.withCaller inst.children scope).bindBody def_.body).run
      called.2).run = body
    -- the body's scope still finds the module, so its first statement is the same call one deeper
    have foundBelow : body.1.findModule? def_.name = some def_ := by
      rw [← bodyBound, Script.Scope.findModule?_bindBody _ _ unshadowed,
        Script.Scope.findModule?_withCaller, ← entered, Script.Scope.findModule?_callScope, found]
    obtain ⟨log', failed⟩ := instantiateCall_self_call named starts calls unshadowed (depth + 1)
      body.1 first calls foundBelow body.2
    exact ⟨log', Instantiating.run_bind_of_error (Instantiating.run_bind_of_error failed)⟩
termination_by maxModuleDepth - depth

end SelfCall

/-! ### Termination -/

theorem instantiate_outcome (design : Design) (context : Scope) (log : Array LogRecord) :
    (∃ t, ((instantiate design context).run.run log).run.1 = .ok t ∧ t.PreOrder) ∨
      ((instantiate design context).run.run log).run.1 = .error .noTopLevelObject ∨
      ∃ name, ((instantiate design context).run.run log).run.1 = .error (recursionError name) := by
  cases ran : ((instantiate design context).run.run log).run.1 with
  | ok t =>
    exact .inl ⟨t, rfl, (Instantiating.of_triple (instantiate_preOrder design context) log ran).1⟩
  | error e =>
    rcases Instantiating.error_of_triple (instantiate_preOrder design context) log ran with
      empty | ⟨name, rfl⟩
    · exact .inr (.inl (congrArg Except.error empty))
    · exact .inr (.inr ⟨name, rfl⟩)

/-- Instantiation ends on every design in every context: with a scene tree in pre-order, for want
of a top-level object, or with the recursion error. The recursion error is what a user module
call meets with `maxModuleDepth` calls open, before anything is evaluated or reported. With fewer
calls open, a call that succeeds gives the same nodes and the same diagnostics, so the count of
open calls matters only against the bound. And a module that starts by calling itself reaches the
bound, however many calls are open when it is called. -/
theorem instantiate_terminates (design : Design) (context : Scope) (log : Array LogRecord) :
    ((∃ t, ((instantiate design context).run.run log).run.1 = .ok t ∧ t.PreOrder) ∨
      ((instantiate design context).run.run log).run.1 = .error .noTopLevelObject ∨
      ∃ name, ((instantiate design context).run.run log).run.1 = .error (recursionError name)) ∧
    (∀ depth scope inst (def_ : ModuleDef), inst.name ≠ "children" →
      scope.findModule? inst.name = some def_ → maxModuleDepth ≤ depth → ∀ before,
        ((instantiateCall depth scope inst).run.run before).run =
          (.error (recursionError inst.name), before)) ∧
    (∀ depth scope inst, ∀ d ≤ depth,
      (instantiateCall depth scope inst).KeepsSuccess (instantiateCall d scope inst)) ∧
    (∀ (def_ : ModuleDef) first rest, def_.name ≠ "children" →
      def_.body.instantiations = first :: rest → first.name = def_.name →
      (∀ d ∈ def_.body.definitions, d.name ≠ def_.name) →
      ∀ depth scope inst, inst.name = def_.name → scope.findModule? def_.name = some def_ →
        ∀ before, ∃ after, ((instantiateCall depth scope inst).run.run before).run =
          (.error (recursionError def_.name), after)) :=
  ⟨instantiate_outcome design context log,
    fun _ _ _ _ named found deep before => instantiateCall_refused named found deep before,
    instantiateCall_keepsSuccess,
    fun _ _ _ named starts calls unshadowed depth scope inst callsDef found =>
      instantiateCall_self_call named starts calls unshadowed depth scope inst callsDef found⟩

/-- The module `r() { r(); }` called at the top level ends in the recursion error. -/
theorem instantiate_self_recursive_refused :
    let r : ModuleDef := ⟨"r", [], { instantiations := [⟨"r", [], {}, {}, 0⟩] }⟩
    let design : Design :=
      ⟨{ definitions := [r], instantiations := [⟨"r", [], {}, {}, 0⟩] }, "", [], []⟩
    ((instantiate design default).run.run #[]).run.1 = .error (recursionError "r") := by
  intro r design
  obtain ⟨-, -, -, selfCall⟩ := instantiate_terminates design default #[]
  obtain ⟨after, failed⟩ := selfCall r _ [] (by decide) rfl rfl (by simp [r]) 0
    (((default : Scope).enter design.body).run #[]).run.1 ⟨"r", [], {}, {}, 0⟩ rfl rfl
    (((default : Scope).enter design.body).run #[]).run.2
  unfold instantiate
  rw [Instantiating.run_liftM_bind, List.mapM_cons,
    Instantiating.run_bind_of_error (Instantiating.run_bind_of_error failed)]

end CsgPreview.Scene
