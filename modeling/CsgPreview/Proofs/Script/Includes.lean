import Mathlib
import CsgPreview.Script.Load
import CsgPreview.Proofs.Pipeline.Keeps
import CsgPreview.Proofs.Files.PathOrder

/-!
Which files loading a document reads, what it records, and how deep it goes.

Loading records, found or not, the path every `include` and `use` statement is located at, and
reads on through each file found that is not being read further up. `Names` says which paths
those are, level by level; `Loading.Records` says that a loading step records exactly a given
set of paths and fails only in given ways, and it composes through `bind`, so a level is
handled one statement at a time and one case per statement kind. The recursion decreases on
the stored files not being read further up, so loading ends, and it never nests deeper than one
level per distinct stored file below the document. The main statement is
`parse_resolves_every_include`.
-/

namespace CsgPreview.Script

open Grammar Files

/-! ### The file names a document gives -/

mutual

/-- The `include` and `use` statements met in a statement, nested ones included, each as the
file name it gives and its position. -/
def Grammar.Statement.fileRefs : Statement → List (String × Nat)
  | .include file pos => [(file, pos)]
  | .use file pos => [(file, pos)]
  | .define _ _ body => Statement.fileRefsAll body
  | .assign _ => []
  | .call _ _ _ children _ => Statement.fileRefsAll children

def Grammar.Statement.fileRefsAll : List Statement → List (String × Nat)
  | [] => []
  | s :: rest => s.fileRefs ++ Statement.fileRefsAll rest

end

/-! ### Steps that record paths -/

variable {α β : Type}

/-- A loading step records exactly the paths of `paths` when it succeeds and only paths of
`paths` in any case, appending them to those recorded before it; it fails only with errors of
`fails`. -/
def Loading.Records (x : Loading α) (paths : String → Prop) (fails : PipelineError → Prop) :
    Prop :=
  ∀ deps log, ∃ extra : List String,
    (((x.run.run deps).run log).run.1.2).toList = deps.toList ++ extra ∧
    (∀ p ∈ extra, paths p) ∧
    match ((x.run.run deps).run log).run.1.1 with
    | .ok _ => ∀ p, paths p → p ∈ extra
    | .error e => fails e

namespace Loading.Records

variable {paths paths₁ paths₂ : String → Prop}
  {fails fails₁ fails₂ : PipelineError → Prop}

theorem pure (a : α) : (Pure.pure a : Loading α).Records (fun _ => False) (fun _ => False) := by
  intro deps log
  refine ⟨[], by simp, by simp, ?_⟩
  simp only [Step.run_pure]
  intro p never
  exact never.elim

theorem throw {e : PipelineError} (h : fails e) :
    (throw e : Loading α).Records (fun _ => False) fails := by
  intro deps log
  refine ⟨[], by simp, by simp, ?_⟩
  simpa only [Step.run_throw] using h

theorem bind {x : Loading α} {f : α → Loading β} (hx : x.Records paths₁ fails₁)
    (hf : ∀ a, (f a).Records paths₂ fails₂) :
    (x >>= f).Records (fun p => paths₁ p ∨ paths₂ p)
      (fun e => fails₁ e ∨ fails₂ e) := by
  intro deps log
  obtain ⟨extra₁, grown₁, only₁, end₁⟩ := hx deps log
  rcases first : ((x.run.run deps).run log).run with ⟨⟨r, deps₁⟩, log₁⟩
  rw [first] at grown₁ end₁
  cases r with
  | error e =>
    rw [Step.run_bind_of_error first]
    exact ⟨extra₁, grown₁, fun p mem => .inl (only₁ p mem), .inl end₁⟩
  | ok a =>
    obtain ⟨extra₂, grown₂, only₂, end₂⟩ := hf a deps₁ log₁
    rw [Step.run_bind_of_ok first]
    refine ⟨extra₁ ++ extra₂, by rw [grown₂, grown₁, List.append_assoc], ?_, ?_⟩
    · intro p mem
      rcases List.mem_append.1 mem with early | late
      · exact .inl (only₁ p early)
      · exact .inr (only₂ p late)
    · revert end₂
      split
      · intro all p named
        rcases named with early | late
        · exact List.mem_append_left _ (end₁ p early)
        · exact List.mem_append_right _ (all p late)
      · exact .inr

theorem congr {x : Loading α} (h : x.Records paths₁ fails₁)
    (same : ∀ p, paths₁ p ↔ paths₂ p)
    (weaker : ∀ e, fails₁ e → fails₂ e) : x.Records paths₂ fails₂ := by
  intro deps log
  obtain ⟨extra, grown, only, ends⟩ := h deps log
  refine ⟨extra, grown, fun p mem => (same p).1 (only p mem), ?_⟩
  revert ends
  split
  · exact fun all p named => all p ((same p).2 named)
  · exact weaker _

theorem push (path : String) :
    (modifyThe (Array String) (·.push path) : Loading Unit).Records (· = path)
      (fun _ => False) := by
  intro deps log
  have run : (((modifyThe (Array String) (·.push path) : Loading Unit).run.run deps).run log).run =
      ((.ok (), deps.push path), log) := rfl
  refine ⟨[path], by rw [run]; simp, by simp, ?_⟩
  rw [run]
  exact fun p named => List.mem_singleton.2 named

theorem lift (x : Logged α) :
    (monadLift x : Loading α).Records (fun _ => False) (fun _ => False) := by
  intro deps log
  have run : (((monadLift x : Loading α).run.run deps).run log).run =
      ((.ok (x.run log).run.1, deps), (x.run log).run.2) := rfl
  refine ⟨[], by rw [run]; simp, by simp, ?_⟩
  rw [run]
  exact fun p never => never.elim

theorem map {x : Loading α} (f : α → β) (hx : x.Records paths fails) :
    (f <$> x).Records paths fails := by
  rw [map_eq_pure_bind]
  exact (hx.bind fun a => pure (f a)).congr (fun p => Iff.of_eq (or_false (paths p)))
    fun e failed => failed.elim id False.elim

theorem run_tryCatch_of_ok {x : Loading α} {handler : PipelineError → Loading α}
    {deps deps₁ : Array String} {log log₁ : Array LogRecord} {a : α}
    (h : ((x.run.run deps).run log).run = ((.ok a, deps₁), log₁)) :
    (((tryCatch x handler).run.run deps).run log).run = ((.ok a, deps₁), log₁) := by
  simp [ExceptT.run_tryCatch, StateT.run_bind, h]

theorem run_tryCatch_of_error {x : Loading α} {handler : PipelineError → Loading α}
    {deps deps₁ : Array String} {log log₁ : Array LogRecord} {e : PipelineError}
    (h : ((x.run.run deps).run log).run = ((.error e, deps₁), log₁)) :
    (((tryCatch x handler).run.run deps).run log).run =
      (((handler e).run.run deps₁).run log₁).run := by
  simp [ExceptT.run_tryCatch, StateT.run_bind, h]

theorem tryCatch {x : Loading α} {handler : PipelineError → Loading α}
    (hx : x.Records paths fails₁)
    (rethrows : ∀ e, fails₁ e → ∃ e', handler e = MonadExcept.throw e' ∧ fails₂ e') :
    (tryCatch x handler).Records paths fails₂ := by
  intro deps log
  obtain ⟨extra, grown, only, ends⟩ := hx deps log
  rcases first : ((x.run.run deps).run log).run with ⟨⟨r, deps₁⟩, log₁⟩
  rw [first] at grown ends
  cases r with
  | ok a =>
    rw [run_tryCatch_of_ok first]
    exact ⟨extra, grown, only, ends⟩
  | error e =>
    obtain ⟨e', thrown, failed⟩ := rethrows e ends
    rw [run_tryCatch_of_error first, thrown, Step.run_throw]
    exact ⟨extra, grown, only, failed⟩

end Loading.Records

/-! ### Loading statements -/

section Statements

variable {named : Bool → String → Nat → Loading (Option Body)}
  {pathsOf : String → Nat → String → Prop}
  {failsOf : String → Nat → PipelineError → Prop}

mutual

theorem loadStatement_records
    (hnamed : ∀ b name pos, (named b name pos).Records (pathsOf name pos) (failsOf name pos)) :
    (s : Statement) → (body : Body) → (loadStatement named s body).Records
      (fun p => ∃ r ∈ s.fileRefs, pathsOf r.1 r.2 p)
      (fun e => ∃ r ∈ s.fileRefs, failsOf r.1 r.2 e)
  | .include file pos, body => by
    rw [loadStatement]
    exact ((hnamed true file pos).bind fun o => by cases o <;> exact .pure _).congr
      (by simp [Statement.fileRefs]) (by simp [Statement.fileRefs])
  | .use file pos, body => by
    rw [loadStatement]
    exact ((hnamed false file pos).bind fun o => by cases o <;> exact .pure _).congr
      (by simp [Statement.fileRefs]) (by simp [Statement.fileRefs])
  | .define name params children, body => by
    rw [loadStatement]
    exact ((loadStatements_records hnamed children {}).bind fun _ => .pure _).congr
      (by simp [Statement.fileRefs]) (by simp [Statement.fileRefs])
  | .assign a, body => by
    rw [loadStatement]
    exact (Loading.Records.pure _).congr (by simp [Statement.fileRefs]) (by simp)
  | .call marks name args children pos, body => by
    rw [loadStatement]
    exact ((loadStatements_records hnamed children {}).bind fun _ => .pure _).congr
      (by simp [Statement.fileRefs]) (by simp [Statement.fileRefs])

theorem loadStatements_records
    (hnamed : ∀ b name pos, (named b name pos).Records (pathsOf name pos) (failsOf name pos)) :
    (stmts : List Statement) → (body : Body) → (loadStatements named stmts body).Records
      (fun p => ∃ r ∈ Statement.fileRefsAll stmts, pathsOf r.1 r.2 p)
      (fun e => ∃ r ∈ Statement.fileRefsAll stmts, failsOf r.1 r.2 e)
  | [], body => by
    rw [loadStatements]
    exact (Loading.Records.pure _).congr (by simp [Statement.fileRefsAll]) (by simp)
  | s :: rest, body => by
    rw [loadStatements]
    exact ((loadStatement_records hnamed s body).bind fun b =>
      loadStatements_records hnamed rest b).congr
      (by simp [Statement.fileRefsAll, or_and_right, exists_or])
      (by simp [Statement.fileRefsAll, or_and_right, exists_or])

end

end Statements

/-! ### The paths loading records -/

namespace Loader

/-- The paths loading `text` records, where `dir` is the directory its names are read against
and `stack` the canonical paths of the files being read further up: the path each `include` and
`use` statement of the text is located at, found or not, and, for a file found there that is
not on the stack, the paths loading that file records in turn. -/
inductive Names (ld : Loader) : List String → String → String → String → Prop
  | located {stack text dir src stmts name pos} :
      parseDocument text = .ok (src, stmts) → (name, pos) ∈ Statement.fileRefsAll stmts →
      Names ld stack text dir (ld.locate name dir).1
  | nested {stack text dir src stmts name pos path inner p} :
      parseDocument text = .ok (src, stmts) → (name, pos) ∈ Statement.fileRefsAll stmts →
      ld.locate name dir = (path, true) → (ld.store.canonical? path).getD path ∉ stack →
      ld.store.readText path = .ok inner →
      Names ld ((ld.store.canonical? path).getD path :: stack) inner
        ((parentPath? path).getD "") p →
      Names ld stack text dir p

theorem Names.parsed {ld : Loader} {stack : List String} {text dir p : String}
    (h : ld.Names stack text dir p) : ∃ src stmts, parseDocument text = .ok (src, stmts) := by
  cases h with
  | located parsed => exact ⟨_, _, parsed⟩
  | nested parsed => exact ⟨_, _, parsed⟩

/-- The paths one statement naming `name` records. -/
def NamedPaths (ld : Loader) (stack : List String) (dir name p : String) : Prop :=
  p = (ld.locate name dir).1 ∨
    ∃ path inner, ld.locate name dir = (path, true) ∧
      (ld.store.canonical? path).getD path ∉ stack ∧ ld.store.readText path = .ok inner ∧
      ld.Names ((ld.store.canonical? path).getD path :: stack) inner
        ((parentPath? path).getD "") p

/-- How one statement naming `name` at `pos` can fail: reading a file fails, or the file it names
does not parse, reported at the statement. -/
def NamedFailure (ld : Loader) (src : Source) (dir name : String) (pos : Nat)
    (e : PipelineError) : Prop :=
  (∃ path err, e = .io path err) ∨
    ∃ msg, e = .parse (src.failureAt pos ("in " ++ (ld.locate name dir).1 ++ ": " ++ msg))

/-- How loading `text` can fail: reading a file fails, the text does not parse, or a file it
names does not, reported at the statement of the text that names it. -/
def LoadFailure (ld : Loader) (text dir : String) : PipelineError → Prop
  | .io _ _ => True
  | .parse f => parseDocument text = .error f ∨
      ∃ src stmts, parseDocument text = .ok (src, stmts) ∧
        ∃ r ∈ Statement.fileRefsAll stmts, ∃ msg,
          f = src.failureAt r.2 ("in " ++ (ld.locate r.1 dir).1 ++ ": " ++ msg)
  | _ => False

theorem namedFailure_io {ld : Loader} {src : Source} {dir name path : String} {pos : Nat}
    {err : IoError} : ld.NamedFailure src dir name pos (.io path err) :=
  .inl ⟨path, err, rfl⟩

theorem loadFailure_of_unparsed (ld : Loader) (dir : String) {text : String} {f : Failure}
    (failed : parseDocument text = .error f) : ld.LoadFailure text dir (.parse f) :=
  .inl failed

theorem names_iff {ld : Loader} {stack : List String} {text dir : String} {src : Source}
    {stmts : List Statement} (parsed : parseDocument text = .ok (src, stmts)) (p : String) :
    ld.Names stack text dir p ↔
      ∃ r ∈ Statement.fileRefsAll stmts, ld.NamedPaths stack dir r.1 p := by
  constructor
  · intro named
    cases named with
    | located again mem =>
      rw [parsed] at again
      cases again
      exact ⟨_, mem, .inl rfl⟩
    | nested again mem located fresh reads inner =>
      rw [parsed] at again
      cases again
      exact ⟨_, mem, .inr ⟨_, _, located, fresh, reads, inner⟩⟩
  · rintro ⟨⟨name, pos⟩, mem, rfl | ⟨path, inner, located, fresh, reads, names⟩⟩
    · exact .located parsed mem
    · exact .nested parsed mem located fresh reads names

section Level

variable (ld : Loader) (stack : List String)
  (read : (canonical : String) → canonical ∈ ld.store.keys → canonical ∉ stack →
    String → String → Loading Body)
  (hread : ∀ c mem fresh inner innerDir, (read c mem fresh inner innerDir).Records
    (ld.Names (c :: stack) inner innerDir) (ld.LoadFailure inner innerDir))

include hread in
theorem openNamed_records (dir : String) (src : Source) (b : Bool) (name : String) (pos : Nat) :
    (ld.openNamed stack dir src read b name pos).Records (ld.NamedPaths stack dir name)
      (ld.NamedFailure src dir name pos) := by
  unfold openNamed
  rcases located : ld.locate name dir with ⟨path, found⟩
  dsimp only
  cases found with
  | false =>
    simp only [Bool.not_false, ↓reduceIte]
    exact ((Loading.Records.push path).bind fun _ =>
      (Loading.Records.lift _).bind fun _ => .pure _).congr
      (by simp [NamedPaths, located]) (by simp)
  | true =>
    simp only [Bool.not_true, Bool.false_eq_true, ↓reduceIte]
    by_cases cyclic : (ld.store.canonical? path).getD path ∈ stack
    · simp only [cyclic, ↓reduceDIte]
      exact ((Loading.Records.push path).bind fun _ =>
        (Loading.Records.lift _).bind fun _ => .pure _).congr
        (by simp [NamedPaths, located, cyclic]) (by simp)
    · simp only [cyclic, ↓reduceDIte]
      split
      next e failed =>
        exact ((Loading.Records.push path).bind fun _ =>
          Loading.Records.throw namedFailure_io).congr
          (by simp [NamedPaths, located, cyclic, failed])
          fun _ failed => failed.elim False.elim id
      next inner reads =>
        refine ((Loading.Records.push path).bind fun _ =>
          ((hread _ _ _ inner _).map some).tryCatch ?_).congr
          (by simp [NamedPaths, located, cyclic, reads])
          fun _ failed => failed.elim False.elim id
        -- a syntax error of the file read is reported again at the statement naming it
        intro e failed
        cases e with
        | parse f => exact ⟨_, rfl, .inr ⟨f.text, by rw [located]⟩⟩
        | io failedPath err => exact ⟨_, rfl, namedFailure_io⟩
        | _ => exact False.elim failed

include hread in
theorem level_records (text dir : String) :
    (ld.level stack text dir read).Records (ld.Names stack text dir) (ld.LoadFailure text dir) := by
  unfold level
  split
  next f failed =>
    refine (Loading.Records.throw (ld.loadFailure_of_unparsed dir failed)).congr
      (fun p => ⟨False.elim, fun named => ?_⟩) fun _ => id
    obtain ⟨_, _, parsed⟩ := named.parsed
    rw [failed] at parsed
    cases parsed
  next src stmts parsed =>
    refine (loadStatements_records (ld.openNamed_records stack read hread dir src) stmts {}).congr
      (fun p => (names_iff parsed p).symm) ?_
    rintro e ⟨⟨name, pos⟩, mem, ⟨path, err, rfl⟩ | ⟨msg, rfl⟩⟩
    · trivial
    · exact .inr ⟨src, stmts, parsed, ⟨name, pos⟩, mem, msg, rfl⟩

end Level

theorem source_records (ld : Loader) (stack : List String) (text dir : String) :
    (ld.source stack text dir).Records (ld.Names stack text dir) (ld.LoadFailure text dir) := by
  rw [source]
  exact ld.level_records stack _ (fun c mem fresh inner innerDir =>
    source_records ld (c :: stack) inner innerDir) text dir
termination_by (ld.store.keys.filter fun k => k ∉ stack).length
decreasing_by exact length_filter_fresh_lt mem fresh

/-- Loading cut off after `depth` levels: the text is read at the first level, the files it
names at the next, and a file named below the last level gives `stop`. -/
def sourceWithin (ld : Loader) (stop : Loading Body) :
    Nat → List String → String → String → Loading Body
  | 0, _, _, _ => stop
  | depth + 1, stack, text, dir =>
    ld.level stack text dir fun canonical _ _ inner innerDir =>
      ld.sourceWithin stop depth (canonical :: stack) inner innerDir

theorem sourceWithin_eq_source (ld : Loader) (stop : Loading Body) (depth : Nat)
    (stack : List String) (text dir : String)
    (shallow : (ld.store.keys.dedup.filter fun k => k ∉ stack).length < depth) :
    ld.sourceWithin stop depth stack text dir = ld.source stack text dir := by
  induction depth generalizing stack text dir with
  | zero => exact absurd shallow (Nat.not_lt_zero _)
  | succ depth ih =>
    rw [sourceWithin, source]
    congr 1
    funext c mem fresh inner innerDir
    -- each file read leaves one distinct stored file fewer off the stack
    have fewer := length_filter_fresh_lt (List.mem_dedup.2 mem) fresh
    exact ih (c :: stack) inner innerDir (by omega)

theorem locate_eq_find? (ld : Loader) (name dir : String) :
    ld.locate name dir =
      ((dir :: ld.libraryPaths).find? fun d => ld.store.isFile (joinPath d name)).elim
        (joinPath dir name, false) fun d => (joinPath d name, true) := by
  unfold locate
  by_cases beside : ld.store.isFile (joinPath dir name)
  · simp [beside]
  · simp only [beside, List.find?_cons, Bool.false_eq_true, ↓reduceIte]
    cases List.find? (fun lib => ld.store.isFile (joinPath lib name)) ld.libraryPaths <;> rfl

theorem parse_outcome (ld : Loader) (text base : String) (log : Array LogRecord) :
    match ((ld.parse text base).run log).run.1 with
    | .ok design => ∃ deps, design.dependencies = sortPaths deps ∧
        (∀ p ∈ deps, ld.Names [] text base p) ∧ ∀ p, ld.Names [] text base p → p ∈ deps
    | .error e => ld.LoadFailure text base e := by
  obtain ⟨extra, grown, only, ends⟩ := source_records ld [] text base #[] log
  rcases first : (((ld.source [] text base).run.run #[]).run log).run with
    ⟨⟨r, deps⟩, log₁⟩
  rw [first] at grown ends
  simp only [List.nil_append] at grown
  unfold parse
  simp only [StateT.run_bind, Id.run_bind, first]
  cases r with
  | error e => exact ends
  | ok body =>
    rw [← grown] at only ends
    exact ⟨deps.toList, rfl, only, ends⟩

/-- Loading a document ends, nesting no deeper than one level below the document per distinct
stored file, since a file is read only while no spelling of it is being read further up. A name
is looked for next to the naming file, then in each library directory in order, and is recorded
next to the naming file when found nowhere. The loaded design's dependencies are sorted, no path
twice, and are up to spelling exactly the paths of every `include` and `use` met at any depth.
A failure is a read error, a syntax error of the document, or one inside a file it names,
reported at the document's own statement that names that file. -/
theorem parse_resolves_every_include (ld : Loader) (text base : String) (log : Array LogRecord) :
    (∀ stop, ld.sourceWithin stop (ld.store.keys.dedup.length + 1) [] text base =
      ld.source [] text base) ∧
    (∀ name dir, ld.locate name dir =
      ((dir :: ld.libraryPaths).find? fun d => ld.store.isFile (joinPath d name)).elim
        (joinPath dir name, false) fun d => (joinPath d name, true)) ∧
    match ((ld.parse text base).run log).run.1 with
    | .ok design =>
      design.dependencies.Pairwise (fun p q => comparePaths p q = .lt) ∧
      design.dependencies.Pairwise (fun p q => ¬ samePath p q) ∧
      (∀ p ∈ design.dependencies, ld.Names [] text base p) ∧
      ∀ p, ld.Names [] text base p → ∃ q ∈ design.dependencies, samePath p q
    | .error e => ld.LoadFailure text base e := by
  refine ⟨fun stop => ld.sourceWithin_eq_source stop _ [] text base (by simp),
    ld.locate_eq_find?, ?_⟩
  have outcome := ld.parse_outcome text base log
  split
  next design loaded =>
    rw [loaded] at outcome
    obtain ⟨deps, sorted, only, every⟩ := outcome
    rw [sorted]
    exact ⟨sortPaths_pairwise_lt deps, sortPaths_pairwise_apart deps,
      fun p mem => only p (mem_of_mem_sortPaths mem),
      fun p named => exists_samePath_mem_sortPaths (every p named)⟩
  next e failed =>
    rw [failed] at outcome
    exact outcome

end Loader

end CsgPreview.Script
