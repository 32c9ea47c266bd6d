import Mathlib
import CsgPreview.Cache.Lru

/-!
What a cache can hold after a lookup or a store.

A lookup only moves the clock and restamps the entry it finds, and a store adds one entry after
dropping the old entry of its key and evicting others. So a property of keys and values that
every entry has survives lookups, and survives a store of a value that has it; and a hit
returns a value stored under the key looked up.
-/

namespace CsgPreview.Cache.LruCache

variable {V : Type}

/-- Every entry of the cache pairs its key with a value that `good` accepts. -/
def Holds (good : String → V → Prop) (c : LruCache V) : Prop :=
  ∀ e ∈ c.entries, good e.1 e.2.value

variable {good : String → V → Prop} {c : LruCache V}

theorem Holds.of_subset {c' : LruCache V} (h : c.Holds good) (hsub : c'.entries ⊆ c.entries) :
    c'.Holds good :=
  fun e he => h e (hsub he)

theorem find?_holds (h : c.Holds good) {key : String} {e : Entry V} (hit : c.find? key = some e) :
    good key e.value := by
  obtain ⟨⟨k, e'⟩, found, rfl⟩ := Option.map_eq_some_iff.mp hit
  have hk : k = key := by simpa using List.find?_some found
  exact hk ▸ h _ (List.mem_of_find?_eq_some found)

theorem Holds.touch (h : c.Holds good) (key : String) : (c.touch key).1.Holds good := by
  unfold LruCache.touch
  split
  · exact h
  · -- restamping keeps every key and value
    intro e he
    obtain ⟨⟨k, x⟩, mem, rfl⟩ := List.mem_map.mp he
    by_cases hk : (k == key) = true
    · simp only [if_pos hk]
      exact h _ mem
    · simp only [if_neg hk]
      exact h _ mem

theorem good_of_touch (h : c.Holds good) {key : String} {v : V}
    (hit : (c.touch key).2 = some v) : good key v := by
  unfold LruCache.touch at hit
  split at hit
  · cases hit
  · rename_i e found
    cases hit
    exact find?_holds h found

theorem Holds.get (h : c.Holds good) (key : String) : (c.get key).1.Holds good :=
  h.touch key

theorem good_of_get (h : c.Holds good) {key : String} {v : V} (hit : (c.get key).2 = some v) :
    good key v :=
  good_of_touch h hit

theorem Holds.lookup (h : c.Holds good) (key : String) : (c.lookup key).1.Holds good := by
  have htouch := h.touch key
  unfold LruCache.lookup
  split <;> rename_i heq <;> rw [heq] at htouch <;> exact htouch

theorem good_of_lookup (h : c.Holds good) {key : String} {v : V}
    (hit : (c.lookup key).2 = some v) : good key v := by
  unfold LruCache.lookup at hit
  split at hit
  · rename_i heq
    cases hit
    exact good_of_touch h (by rw [heq])
  · cases hit

theorem Holds.remove (h : c.Holds good) (key : String) : (c.remove key).Holds good := by
  unfold LruCache.remove
  split
  · exact h
  · exact h.of_subset fun _ mem => List.mem_of_mem_filter mem

theorem Holds.evictToBudget_go (fuel : Nat) (log : Array LogRecord) (h : c.Holds good) :
    ((evictToBudget.go fuel c).run log).run.1.Holds good := by
  induction fuel generalizing c log with
  | zero => exact h
  | succ fuel ih =>
    unfold evictToBudget.go
    split
    · split
      · exact h
      · split
        · exact ih _ h
        · exact ih _ (h.of_subset fun _ mem => List.mem_of_mem_filter mem)
    · exact h

theorem Holds.insert (h : c.Holds good) {key : String} {value : V} (hv : good key value)
    (weight : Nat) (log : Array LogRecord) :
    ((c.insert key value weight).run log).run.1.Holds good := by
  have hremoved := h.remove key
  unfold LruCache.insert
  dsimp only
  split
  · exact hremoved
  · apply Holds.evictToBudget_go
    intro e he
    rcases List.mem_append.mp he with old | new
    · exact hremoved e old
    · rw [List.mem_singleton] at new
      subst new
      exact hv

end CsgPreview.Cache.LruCache
