import Mathlib
import CsgPreview.Cache.Tessellation
import CsgPreview.Proofs.Cache.Entries
import CsgPreview.Proofs.Scene.DumpLine
import CsgPreview.Proofs.Pipeline.Lockstep
import CsgPreview.Proofs.Decimal.ZeroText

/-!
Caches that hand back what they would compute.

The tessellations keep a primitive's mesh and outline under its description, and the preview
cache keeps a primitive's preview geometry under its leaf key, the description and `;`. Every
entry was computed from some primitive with that description, so the caches are *faithful*: each
entry is what a primitive with its key makes afresh. Storing, looking up, evicting and flushing
keep them faithful, whatever primitives they are used for.

A primitive that no other primitive describes alike (`Primitive.UniquelyDescribed`, which holds
when its numbers print apart from every other float) gets from a faithful cache exactly what it
makes afresh: the cache cannot tell it from a stranger.

What a store or an eviction leaves does not depend on the diagnostics logged before it.
-/

namespace CsgPreview

open Decimal

namespace Geometry.Primitive

theorem dimension_eq_of_describe_eq {p q : Primitive} (same : p.describe = q.describe) :
    p.dimension = q.dimension := by
  cases p <;> cases q <;> first
    | rfl
    | (dsimp only [describe] at same
       have chars := congrArg String.toList same
       simp only [String.toList_append, String.reduceToList, List.cons_append, List.cons.injEq,
         Char.reduceEq, false_and, and_false] at chars)

/-- The preview geometry a primitive makes afresh: its outline in the plane, its mesh in
space. -/
def previewShape (p : Primitive) : Shape :=
  if p.dimension == 2 then .outline p.toOutline else .mesh p.toMesh

/-- No other primitive prints the description of `p`. -/
def UniquelyDescribed (p : Primitive) : Prop := ∀ q : Primitive, q.describe = p.describe → q = p

/-- A float that no other float prints alike. -/
def PrintsApart (x : Float) : Prop := ∀ y : Float, plainOfFloat x = plainOfFloat y → x = y

theorem uniquelyDescribed_of_printsApart {p : Primitive} (h : ∀ x ∈ p.numbers, PrintsApart x) :
    p.UniquelyDescribed := fun _ same =>
  (describe_inj (fun x hx y _ printed => h x hx y printed) same.symm).symm

theorem printsApart_zero : PrintsApart 0 := fun _ printed =>
  (Decimal.plainOfFloat_eq_zero (printed.symm.trans (by decide +kernel))).symm

end Geometry.Primitive

namespace Cache

open CsgPreview.Geometry

/-! ### Tessellations -/

/-- Every mesh and outline kept is the one a primitive with its description makes. -/
structure Tessellations.Faithful (t : Tessellations) : Prop where
  meshes : ∀ e ∈ t.meshes, ∃ q : Primitive, e.1 = q.describe ∧ e.2 = q.toMesh
  outlines : ∀ e ∈ t.outlines, ∃ q : Primitive, e.1 = q.describe ∧ e.2 = q.toOutline

namespace Tessellations

variable {t : Tessellations}

theorem faithful_empty : ({} : Tessellations).Faithful :=
  ⟨fun _ mem => by simp at mem, fun _ mem => by simp at mem⟩

theorem exists_of_find? {α : Type} {entries : List (String × α)} {make : Primitive → α}
    (faithful : ∀ e ∈ entries, ∃ q : Primitive, e.1 = q.describe ∧ e.2 = make q) {key : String}
    {e : String × α} (found : entries.find? (·.1 == key) = some e) :
    ∃ q : Primitive, q.describe = key ∧ e.2 = make q := by
  obtain ⟨q, hkey, hmake⟩ := faithful e (List.mem_of_find?_eq_some found)
  have same : e.1 = key := by simpa using List.find?_some found
  exact ⟨q, hkey ▸ same, hmake⟩

theorem Faithful.mesh (h : t.Faithful) (p : Primitive) : (t.mesh p).1.Faithful := by
  unfold Tessellations.mesh
  dsimp only
  split
  · exact h
  · refine ⟨fun e mem => ?_, h.outlines⟩
    rcases List.mem_append.mp mem with old | new
    · exact h.meshes e old
    · exact ⟨p, by simp_all⟩

theorem Faithful.outline (h : t.Faithful) (p : Primitive) : (t.outline p).1.Faithful := by
  unfold Tessellations.outline
  dsimp only
  split
  · exact h
  · refine ⟨h.meshes, fun e mem => ?_⟩
    rcases List.mem_append.mp mem with old | new
    · exact h.outlines e old
    · exact ⟨p, by simp_all⟩

theorem mesh_described (h : t.Faithful) (p : Primitive) :
    ∃ q : Primitive, q.describe = p.describe ∧ (t.mesh p).2 = q.toMesh := by
  unfold Tessellations.mesh
  dsimp only
  split
  next found => exact exists_of_find? h.meshes found
  next => exact ⟨p, rfl, rfl⟩

theorem outline_described (h : t.Faithful) (p : Primitive) :
    ∃ q : Primitive, q.describe = p.describe ∧ (t.outline p).2 = q.toOutline := by
  unfold Tessellations.outline
  dsimp only
  split
  next found => exact exists_of_find? h.outlines found
  next => exact ⟨p, rfl, rfl⟩

theorem Faithful.preview (h : t.Faithful) (p : Primitive) : (t.preview p).1.Faithful := by
  unfold Tessellations.preview
  split
  · exact h.outline p
  · exact h.mesh p

theorem Faithful.exact (h : t.Faithful) (p : Primitive) : (t.exact p).1.Faithful := by
  unfold Tessellations.exact
  split
  · exact h.outline p
  · exact h.mesh p

theorem preview_described (h : t.Faithful) (p : Primitive) :
    ∃ q : Primitive, q.describe = p.describe ∧ (t.preview p).2 = q.previewShape := by
  unfold Tessellations.preview Primitive.previewShape
  split
  case isTrue plane =>
    obtain ⟨q, same, made⟩ := outline_described h p
    have dim := Primitive.dimension_eq_of_describe_eq same
    exact ⟨q, same, by simp_all⟩
  case isFalse solid =>
    obtain ⟨q, same, made⟩ := mesh_described h p
    have dim := Primitive.dimension_eq_of_describe_eq same
    exact ⟨q, same, by simp_all⟩

end Tessellations

/-! ### The preview cache -/

/-- Every entry of the preview cache is what a primitive with its key makes afresh. -/
def PreviewFaithful (c : LruCache Shape) : Prop :=
  c.Holds fun k g => ∃ q : Primitive, k = q.describe ++ ";" ∧ g = q.previewShape

namespace PreviewFaithful

variable {c : LruCache Shape}

theorem create (name : String) (max : Nat) : PreviewFaithful (LruCache.create name max) := by
  intro e mem
  simp [LruCache.create] at mem

theorem lookup (h : PreviewFaithful c) (key : String) : PreviewFaithful (c.lookup key).1 :=
  LruCache.Holds.lookup h key

theorem insert (h : PreviewFaithful c) {q : Primitive} (weight : Nat) (log : Array LogRecord) :
    PreviewFaithful ((c.insert (q.describe ++ ";") q.previewShape weight) log).run.1 :=
  LruCache.Holds.insert h ⟨q, rfl, rfl⟩ weight log

theorem setMax (h : PreviewFaithful c) (max : Nat) (log : Array LogRecord) :
    PreviewFaithful ((c.setMax max) log).run.1 :=
  LruCache.Holds.evictToBudget_go _ log (h.of_subset fun _ mem => mem)

theorem clear (c : LruCache Shape) : PreviewFaithful c.clear := by
  intro e mem
  simp [LruCache.clear] at mem

end PreviewFaithful

/-- Both caches of the preview walk are faithful. -/
structure CachesFaithful (p : LruCache Shape) (t : Tessellations) : Prop where
  preview : PreviewFaithful p
  tessellations : t.Faithful

theorem cachesFaithful_clear (p : LruCache Shape) : CachesFaithful p.clear {} :=
  ⟨PreviewFaithful.clear p, Tessellations.faithful_empty⟩

/-! ### Stores and evictions do not read the diagnostics -/

namespace LruCache

variable {V : Type}

theorem evictToBudget_go_blind (fuel : Nat) (c : LruCache V) : (evictToBudget.go fuel c).Blind := by
  induction fuel generalizing c with
  | zero => exact .pure c
  | succ fuel ih =>
    unfold evictToBudget.go
    split
    · split
      · exact .pure _
      · split
        · exact ih _
        · exact (Logged.Blind.report _ _ _).bind fun _ => ih _
    · exact .pure _

theorem insert_blind (c : LruCache V) (key : String) (value : V) (weight : Nat) :
    (c.insert key value weight).Blind := by
  unfold LruCache.insert
  dsimp only
  split
  · exact (Logged.Blind.report _ _ _).bind fun _ => .pure _
  · exact evictToBudget_go_blind _ _

end LruCache

end Cache

end CsgPreview
