import Mathlib
import CsgPreview.Cache.Lru

/-!
The cache as a list of keys from least to most recently used.

Read in the order of their stamps, with their weights, the entries of a cache form a list under
a budget (`RecencyList`). A lookup that finds its key moves it to the end; a store takes the key
out and appends it when its weight fits the budget; and after a store, as after a smaller
budget, entries leave from the front while their weights exceed the budget. A lookup through
`getOrCompute` counts a hit or a miss, and on a miss stores what the computation gives, or
nothing when it fails.

Each entry has a stamp of its own, no later than the clock, and the cache's stamp map holds
exactly the entries' stamps with their keys, in stamp order: its first key is the oldest entry,
the one eviction drops. The total is a machine word, so it is the list's weight only while no
store adds past the largest word (`CacheCall.NoWrap`). Under that condition every call keeps the
cache tracking its list (`LruCache.Tracks`), the stamp map, the total within the budget and the
counters included, so every run of calls from an empty cache does.
-/

namespace CsgPreview.Cache

/-- The keys of a cache with their weights, least recently used first, under a budget, with the
lookups through `getOrCompute` that hit or missed and the entries dropped for the budget. -/
structure RecencyList where
  order : List (String × Nat) := []
  budget : Nat
  hits : Nat := 0
  misses : Nat := 0
  evictions : Nat := 0

namespace RecencyList

def weight (order : List (String × Nat)) : Nat := (order.map Prod.snd).sum

def trim (budget : Nat) : List (String × Nat) → List (String × Nat) × Nat
  | [] => ([], 0)
  | e :: rest =>
    if weight (e :: rest) > budget then ((trim budget rest).1, (trim budget rest).2 + 1)
    else (e :: rest, 0)

def erase (key : String) (order : List (String × Nat)) : List (String × Nat) :=
  order.filter (·.1 != key)

variable (m : RecencyList)

def get (key : String) : RecencyList :=
  match m.order.find? (·.1 == key) with
  | some e => { m with order := erase key m.order ++ [e] }
  | none => m

def insert (key : String) (w : Nat) : RecencyList :=
  let order := erase key m.order ++ if w ≤ m.budget then [(key, w)] else []
  { m with order := (trim m.budget order).1, evictions := m.evictions + (trim m.budget order).2 }

/-- A hit moves the key to the end; a miss stores the weight of what was computed, or nothing
when the computation failed. -/
def getOrCompute (key : String) (computed : Option Nat) : RecencyList :=
  if m.order.any (·.1 == key) then { m.get key with hits := m.hits + 1 }
  else
    match computed with
    | some w => { m with misses := m.misses + 1 }.insert key w
    | none => { m with misses := m.misses + 1 }

def setBudget (budget : Nat) : RecencyList :=
  let trimmed := trim budget m.order
  { m with budget, order := trimmed.1, evictions := m.evictions + trimmed.2 }

def clear : RecencyList := { m with order := [] }

@[simp] theorem weight_nil : weight [] = 0 := rfl

@[simp] theorem weight_cons (e : String × Nat) (rest : List (String × Nat)) :
    weight (e :: rest) = e.2 + weight rest := by
  simp [weight]

@[simp] theorem weight_append (l₁ l₂ : List (String × Nat)) :
    weight (l₁ ++ l₂) = weight l₁ + weight l₂ := by
  simp [weight]

theorem weight_trim_le (budget : Nat) (order : List (String × Nat)) :
    weight (trim budget order).1 ≤ budget := by
  induction order with
  | nil => simp [trim]
  | cons e rest ih =>
    unfold trim
    split
    · exact ih
    · dsimp only
      omega

theorem trim_of_weight_le {budget : Nat} {order : List (String × Nat)}
    (fits : weight order ≤ budget) : trim budget order = (order, 0) := by
  cases order with
  | nil => rfl
  | cons e rest =>
    unfold trim
    rw [if_neg (by omega)]

def tally : Nat × Nat × Nat × Nat := (m.budget, m.hits, m.misses, m.evictions)

@[simp] theorem get_tally (key : String) : (m.get key).tally = m.tally := by
  unfold get
  split <;> rfl

theorem trim_fst_eq_drop (budget : Nat) (order : List (String × Nat)) :
    (trim budget order).1 = order.drop (trim budget order).2 := by
  induction order with
  | nil => rfl
  | cons e rest ih =>
    unfold trim
    split
    · exact ih
    · rfl

/-- Storing `w` under `key` adds to the weight of what stays a total within a machine word, when
the value is kept at all. -/
def FitsWord (key : String) (w : Nat) : Prop :=
  w ≤ m.budget → weight (erase key m.order) + w < wordModulus

instance (key : String) (w : Nat) : Decidable (m.FitsWord key w) :=
  inferInstanceAs (Decidable (_ → _))

/-- A computed weight, when there is one, fits a machine word once stored. -/
def FitsComputed (key : String) : Option Nat → Prop
  | some w => m.FitsWord key w
  | none => True

instance (key : String) : (computed : Option Nat) → Decidable (m.FitsComputed key computed)
  | some w => inferInstanceAs (Decidable (m.FitsWord key w))
  | none => inferInstanceAs (Decidable True)

/-- Touching `a` makes `b` the oldest, so storing `d` past the budget evicts `b`. -/
example : ((({ budget := 30 } : RecencyList).insert "a" 10 |>.insert "b" 10 |>.insert "c" 10
    |>.get "a" |>.insert "d" 10).order) = [("c", 10), ("a", 10), ("d", 10)] := by decide

end RecencyList

namespace LruCache

variable {V : Type}

theorem wordAdd_of_lt {a b : Nat} (h : a + b < wordModulus) : wordAdd a b = a + b :=
  Nat.mod_eq_of_lt h

theorem wordSub_of_le {a b : Nat} (hb : b ≤ a) (ha : a < wordModulus) : wordSub a b = a - b := by
  unfold wordSub
  rw [show a + wordModulus - b = a - b + wordModulus by omega, Nat.add_mod_right,
    Nat.mod_eq_of_lt (by omega)]

def keyWeight (e : String × Entry V) : String × Nat := (e.1, e.2.weight)

def stampKey (e : String × Entry V) : Nat × String := (e.2.stamp, e.1)

def recency (c : LruCache V) : List (String × Nat) :=
  (c.entries.mergeSort fun a b => a.2.stamp ≤ b.2.stamp).map keyWeight

/-- A cache tracks a recency list: every key has one entry and every entry a stamp of its own,
no later than the clock; the stamp map, in stamp order, holds exactly the entries' stamps with
their keys, and its keys are the list's; read in stamp order the entries are the list; the total
is the list's weight, within the budget and a machine word; and the counters are the list's. -/
structure Tracks (c : LruCache V) (m : RecencyList) : Prop where
  keys_nodup : (c.entries.map (·.1)).Nodup
  stamps_nodup : (c.entries.map (·.2.stamp)).Nodup
  stamp_le_clock : ∀ e ∈ c.entries, e.2.stamp ≤ c.clock
  order_sorted : c.order.Pairwise fun a b => a.1 < b.1
  order_mem : ∀ s k, (s, k) ∈ c.order ↔ ∃ e, (k, e) ∈ c.entries ∧ e.stamp = s
  order_keys : c.order.map (·.2) = m.order.map (·.1)
  recency_eq : c.recency = m.order
  total_eq : c.total = RecencyList.weight m.order
  total_le : c.total ≤ c.max
  total_lt : c.total < wordModulus
  max_eq : c.max = m.budget
  hits_eq : c.hits = m.hits
  misses_eq : c.misses = m.misses
  evictions_eq : c.evictions = m.evictions

/-- `L` is the cache's entries in the order of their stamps, each key once and no stamp past the
clock; the stamp map is `L`'s stamps with their keys; and the cache's total is their weight,
within a machine word. -/
structure Stamped (c : LruCache V) (L : List (String × Entry V)) : Prop where
  perm : L.Perm c.entries
  sorted : L.Pairwise fun a b => a.2.stamp < b.2.stamp
  keys_nodup : (L.map (·.1)).Nodup
  stamp_le_clock : ∀ e ∈ L, e.2.stamp ≤ c.clock
  order_eq : c.order = L.map stampKey
  total_eq : c.total = RecencyList.weight (L.map keyWeight)
  total_lt : c.total < wordModulus

section Lists

variable {L : List (String × Entry V)}

theorem weight_perm {l₁ l₂ : List (String × Nat)} (h : l₁.Perm l₂) :
    RecencyList.weight l₁ = RecencyList.weight l₂ :=
  (h.map Prod.snd).sum_eq

theorem stamps_nodup_of_sorted (sorted : L.Pairwise fun a b => a.2.stamp < b.2.stamp) :
    (L.map (·.2.stamp)).Nodup :=
  List.pairwise_map.mpr (sorted.imp Nat.ne_of_lt)

theorem filter_key_of_not_mem {key : String} (fresh : key ∉ L.map (·.1)) :
    L.filter (·.1 != key) = L := by
  refine List.filter_eq_self.mpr fun y hy => ?_
  simp only [bne_iff_ne, ne_eq]
  rintro rfl
  exact fresh (List.mem_map_of_mem hy)

theorem perm_cons_filter_key (nodup : (L.map (·.1)).Nodup) {key : String} {e : Entry V}
    (mem : (key, e) ∈ L) : L.Perm ((key, e) :: L.filter (·.1 != key)) := by
  induction L with
  | nil => cases mem
  | cons x rest ih =>
    rw [List.map_cons, List.nodup_cons] at nodup
    obtain ⟨fresh, nodup⟩ := nodup
    rcases List.mem_cons.mp mem with rfl | mem
    · simp [filter_key_of_not_mem fresh]
    · have hx : x.1 ≠ key := by
        rintro rfl
        have listed := List.mem_map_of_mem (f := fun y : String × Entry V => y.1) mem
        exact fresh listed
      rw [List.filter_cons_of_pos (by simpa using hx)]
      exact ((ih nodup mem).cons x).trans (List.Perm.swap _ _ _)

theorem weight_filter_key (nodup : (L.map (·.1)).Nodup) {key : String} {e : Entry V}
    (mem : (key, e) ∈ L) :
    RecencyList.weight (L.map keyWeight) =
      e.weight + RecencyList.weight ((L.filter (·.1 != key)).map keyWeight) := by
  rw [weight_perm ((perm_cons_filter_key nodup mem).map keyWeight)]
  simp [keyWeight]

theorem weight_filter_le (p : String × Entry V → Bool) :
    RecencyList.weight ((L.filter p).map keyWeight) ≤ RecencyList.weight (L.map keyWeight) := by
  induction L with
  | nil => exact le_rfl
  | cons x rest ih =>
    rw [List.filter_cons]
    split <;> simp only [List.map_cons, RecencyList.weight_cons] <;> omega

end Lists

/-! ### The stamp map -/

section StampMap

variable {L : List (String × Entry V)}

theorem orderInsert_of_lt {o : List (Nat × String)} {stamp : Nat} (key : String)
    (later : ∀ p ∈ o, p.1 < stamp) : orderInsert stamp key o = o ++ [(stamp, key)] := by
  induction o with
  | nil => rfl
  | cons p rest ih =>
    obtain ⟨s, k⟩ := p
    have hs : s < stamp := later _ List.mem_cons_self
    rw [orderInsert, if_pos hs, ih fun q hq => later q (List.mem_cons_of_mem _ hq)]
    rfl

theorem orderErase_map (stamps : (L.map (·.2.stamp)).Nodup) (keys : (L.map (·.1)).Nodup)
    {key : String} {e : Entry V} (mem : (key, e) ∈ L) :
    orderErase e.stamp (L.map stampKey) = (some key, (L.filter (·.1 != key)).map stampKey) := by
  induction L with
  | nil => cases mem
  | cons x rest ih =>
    rw [List.map_cons, List.nodup_cons] at stamps keys
    rcases List.mem_cons.mp mem with rfl | later
    · simp [stampKey, orderErase, filter_key_of_not_mem keys.1]
    · -- the entry comes later, so the head has another stamp and another key
      have hs : x.2.stamp ≠ e.stamp := fun same =>
        stamps.1 (same ▸ List.mem_map_of_mem (f := fun y : String × Entry V => y.2.stamp) later)
      have hk : x.1 ≠ key := fun same =>
        keys.1 (same ▸ List.mem_map_of_mem (f := fun y : String × Entry V => y.1) later)
      simp [stampKey, orderErase, hs, hk, ih stamps.2 keys.2 later]

end StampMap

/-! ### The stamp order -/

section StampOrder

variable {c : LruCache V} {L : List (String × Entry V)}

theorem pairwise_mergeSort_stamp (l : List (String × Entry V)) :
    (l.mergeSort fun a b => a.2.stamp ≤ b.2.stamp).Pairwise
      fun a b => decide (a.2.stamp ≤ b.2.stamp) = true :=
  List.pairwise_mergeSort (fun _ _ _ hab hbc => by simp at *; omega) (fun _ _ => by simp; omega) l

theorem Stamped.recency_eq (h : c.Stamped L) : c.recency = L.map keyWeight := by
  unfold recency
  congr 1
  have perm := (List.mergeSort_perm c.entries fun a b => a.2.stamp ≤ b.2.stamp).trans h.perm.symm
  have sorted : L.Pairwise fun a b => decide (a.2.stamp ≤ b.2.stamp) = true :=
    h.sorted.imp fun hlt => by simp; omega
  have distinct := List.inj_on_of_nodup_map (stamps_nodup_of_sorted h.sorted)
  exact List.Perm.eq_of_pairwise
    (fun a b ha hb hab hba => distinct (perm.subset ha) hb (by simp at hab hba; omega))
    (pairwise_mergeSort_stamp c.entries) sorted perm

theorem Stamped.mem_order (h : c.Stamped L) (s : Nat) (k : String) :
    (s, k) ∈ c.order ↔ ∃ e, (k, e) ∈ c.entries ∧ e.stamp = s := by
  rw [h.order_eq, List.mem_map]
  constructor
  · rintro ⟨⟨k', e⟩, mem, same⟩
    simp only [stampKey, Prod.mk.injEq] at same
    obtain ⟨rfl, rfl⟩ := same
    exact ⟨e, h.perm.subset mem, rfl⟩
  · rintro ⟨e, mem, rfl⟩
    exact ⟨(k, e), h.perm.symm.subset mem, rfl⟩

theorem Tracks.of_stamped {m : RecencyList} (h : c.Stamped L) (order : L.map keyWeight = m.order)
    (fits : c.total ≤ c.max) (budget : c.max = m.budget) (hits : c.hits = m.hits)
    (misses : c.misses = m.misses) (evictions : c.evictions = m.evictions) : c.Tracks m where
  keys_nodup := h.keys_nodup.perm (h.perm.map _)
  stamps_nodup := (stamps_nodup_of_sorted h.sorted).perm (h.perm.map _)
  stamp_le_clock e he := h.stamp_le_clock e (h.perm.symm.subset he)
  order_sorted := h.order_eq ▸ List.pairwise_map.mpr h.sorted
  order_mem := h.mem_order
  order_keys := by
    rw [h.order_eq, ← order, List.map_map, List.map_map]
    rfl
  recency_eq := h.recency_eq.trans order
  total_eq := h.total_eq.trans (congrArg RecencyList.weight order)
  total_le := fits
  total_lt := h.total_lt
  max_eq := budget
  hits_eq := hits
  misses_eq := misses
  evictions_eq := evictions

theorem Tracks.stamped {m : RecencyList} (h : c.Tracks m) :
    ∃ L, c.Stamped L ∧ L.map keyWeight = m.order := by
  let L := c.entries.mergeSort fun a b => a.2.stamp ≤ b.2.stamp
  have perm : L.Perm c.entries := List.mergeSort_perm _ _
  have distinct : L.Pairwise fun a b => a.2.stamp ≠ b.2.stamp :=
    List.pairwise_map.mp (h.stamps_nodup.perm (perm.map _).symm)
  have sorted : L.Pairwise fun a b => a.2.stamp < b.2.stamp :=
    ((pairwise_mergeSort_stamp c.entries).and distinct).imp fun ⟨hle, hne⟩ => by
      simp at hle
      omega
  -- the stamp map and the entries' stamps with their keys hold the same pairs, both in order
  have sameMembers : c.order.Perm (L.map stampKey) := by
    have nodupOrder : c.order.Nodup := h.order_sorted.imp fun hlt same => by
      subst same
      exact lt_irrefl _ hlt
    have nodupL : (L.map stampKey).Nodup :=
      List.Nodup.of_map Prod.fst (by rw [List.map_map]; exact stamps_nodup_of_sorted sorted)
    refine (List.perm_ext_iff_of_nodup nodupOrder nodupL).mpr fun ⟨s, k⟩ => ?_
    rw [h.order_mem, List.mem_map]
    constructor
    · rintro ⟨e, mem, rfl⟩
      exact ⟨(k, e), perm.symm.subset mem, rfl⟩
    · rintro ⟨⟨k', e⟩, mem, same⟩
      simp only [stampKey, Prod.mk.injEq] at same
      obtain ⟨rfl, rfl⟩ := same
      exact ⟨e, perm.subset mem, rfl⟩
  have orderEq : c.order = L.map stampKey :=
    sameMembers.eq_of_pairwise (fun a b _ _ hab hba => absurd (hab.trans hba) (lt_irrefl _))
      h.order_sorted (List.pairwise_map.mpr sorted)
  have order : L.map keyWeight = m.order := h.recency_eq
  refine ⟨L, ⟨perm, sorted, h.keys_nodup.perm (perm.map _).symm,
    fun e he => h.stamp_le_clock e (perm.subset he), orderEq, ?_, h.total_lt⟩, order⟩
  rw [h.total_eq, order]

theorem Stamped.find?_of_mem (h : c.Stamped L) {key : String} {e : Entry V} (mem : (key, e) ∈ L) :
    c.find? key = some e := by
  have keys := List.inj_on_of_nodup_map (h.keys_nodup.perm (h.perm.map _))
  unfold find?
  cases found : c.entries.find? (·.1 == key) with
  | none =>
    have := List.find?_eq_none.mp found (key, e) (h.perm.subset mem)
    simp at this
  | some x =>
    have hx : x.1 = key := by simpa using List.find?_some found
    have same : x = (key, e) := keys (List.mem_of_find?_eq_some found) (h.perm.subset mem) hx
    simp [same]

theorem Stamped.find?_of_not_mem (h : c.Stamped L) {key : String} (fresh : key ∉ L.map (·.1)) :
    c.find? key = none := by
  unfold find?
  rw [List.find?_eq_none.mpr fun x hx => ?_]
  · rfl
  · have listed := List.mem_map_of_mem (f := fun y : String × Entry V => y.1)
      (h.perm.symm.subset hx)
    simpa using fun hk : x.1 = key => fresh (hk ▸ listed)

end StampOrder

/-! ### Each operation keeps the entries listed by stamp -/

section Operations

variable {c : LruCache V} {L : List (String × Entry V)}

theorem sorted_append_later {key : String} {x : Entry V}
    (sorted : L.Pairwise fun a b => a.2.stamp < b.2.stamp)
    (later : ∀ y ∈ L, y.2.stamp < x.stamp) :
    (L ++ [(key, x)]).Pairwise fun a b => a.2.stamp < b.2.stamp :=
  List.pairwise_append.mpr ⟨sorted, List.pairwise_singleton _ _, fun a ha b hb => by
    rw [List.mem_singleton] at hb
    subst hb
    exact later a ha⟩

theorem keys_nodup_append_fresh {key : String} {x : Entry V} (nodup : (L.map (·.1)).Nodup)
    (fresh : key ∉ L.map (·.1)) : ((L ++ [(key, x)]).map (·.1)).Nodup := by
  rw [List.map_append, List.map_singleton, List.nodup_append]
  exact ⟨nodup, List.nodup_singleton _, fun a ha b hb => by
    rw [List.mem_singleton] at hb
    subst hb
    rintro rfl
    exact fresh ha⟩

theorem keys_nodup_filter (nodup : (L.map (·.1)).Nodup) (p : String × Entry V → Bool) :
    ((L.filter p).map (·.1)).Nodup :=
  nodup.sublist (List.filter_sublist.map _)

theorem not_mem_keys_filter_key (key : String) : key ∉ (L.filter (·.1 != key)).map (·.1) := by
  simp

theorem orderInsert_after_clock (h : c.Stamped L) (key : String) {clock : Nat}
    (later : c.clock < clock) {L' : List (String × Entry V)} (sub : L'.Sublist L) :
    orderInsert clock key (L'.map stampKey) = L'.map stampKey ++ [(clock, key)] :=
  orderInsert_of_lt key fun p hp => by
    obtain ⟨y, hy, rfl⟩ := List.mem_map.mp hp
    exact lt_of_le_of_lt (h.stamp_le_clock y (sub.subset hy)) later

theorem Stamped.mem_of_find? (h : c.Stamped L) {key : String} {e : Entry V}
    (found : c.find? key = some e) : (key, e) ∈ L := by
  obtain ⟨⟨k, e'⟩, hx, rfl⟩ := Option.map_eq_some_iff.mp found
  have hk : k = key := by simpa using List.find?_some hx
  subst hk
  exact h.perm.symm.subset (List.mem_of_find?_eq_some hx)

theorem Stamped.not_mem_of_find? (h : c.Stamped L) {key : String} (missing : c.find? key = none) :
    key ∉ L.map (·.1) := by
  intro listed
  obtain ⟨⟨k, e⟩, mem, hk⟩ := List.mem_map.mp listed
  simp only at hk
  subst hk
  rw [h.find?_of_mem mem] at missing
  cases missing

theorem Stamped.touch_of_mem (h : c.Stamped L) {key : String} {e : Entry V} (mem : (key, e) ∈ L) :
    (c.touch key).1.Stamped (L.filter (·.1 != key) ++ [(key, { e with stamp := c.clock + 1 })]) ∧
      (c.touch key).2 = some e.value := by
  let restamp : String × Entry V → String × Entry V := fun kx =>
    if kx.1 == key then (kx.1, { kx.2 with stamp := c.clock + 1 }) else kx
  have moved := orderInsert_after_clock h key (Nat.lt_succ_self c.clock) (List.filter_sublist (l := L)
    (p := fun y : String × Entry V => y.1 != key))
  have touched : c.touch key =
      ({ c with clock := c.clock + 1, entries := c.entries.map restamp,
                order := (L.filter (·.1 != key)).map stampKey ++ [(c.clock + 1, key)] },
        some e.value) := by
    simp only [LruCache.touch, h.find?_of_mem mem, h.order_eq,
      orderErase_map (stamps_nodup_of_sorted h.sorted) h.keys_nodup mem, moved]
    rfl
  have others : (L.filter (·.1 != key)).map restamp = L.filter (·.1 != key) := by
    refine (List.map_congr_left fun x hx => ?_).trans (List.map_id _)
    have hk : x.1 ≠ key := by simpa using (List.mem_filter.mp hx).2
    simp [restamp, hk]
  have perm : (L.filter (fun y : String × Entry V => y.1 != key) ++
      [(key, { e with stamp := c.clock + 1 })]).Perm (c.entries.map restamp) := by
    refine (List.perm_append_singleton _ _).trans ?_
    have moved := ((perm_cons_filter_key h.keys_nodup mem).symm.trans h.perm).map restamp
    rw [List.map_cons, others] at moved
    simpa [restamp] using moved
  rw [touched]
  refine ⟨⟨perm, ?_, ?_, ?_, ?_, ?_, h.total_lt⟩, rfl⟩
  · exact sorted_append_later (h.sorted.filter _) fun y hy =>
      Nat.lt_succ_of_le (h.stamp_le_clock y (List.mem_of_mem_filter hy))
  · exact keys_nodup_append_fresh (keys_nodup_filter h.keys_nodup _) (not_mem_keys_filter_key key)
  · intro y hy
    rcases List.mem_append.mp hy with hy | hy
    · exact Nat.le_succ_of_le (h.stamp_le_clock y (List.mem_of_mem_filter hy))
    · rw [List.mem_singleton] at hy
      subst hy
      exact le_rfl
  · rw [List.map_append]
    rfl
  · have := weight_filter_key h.keys_nodup mem
    simp only [List.map_append, List.map_singleton, RecencyList.weight_append,
      RecencyList.weight_cons, RecencyList.weight_nil, keyWeight] at this ⊢
    rw [h.total_eq]
    omega

theorem Stamped.touch_of_not_mem (h : c.Stamped L) {key : String} (fresh : key ∉ L.map (·.1)) :
    (c.touch key).1.Stamped L ∧ (c.touch key).2 = none := by
  have touched : c.touch key = ({ c with clock := c.clock + 1 }, none) := by
    simp only [LruCache.touch, h.find?_of_not_mem fresh]
  rw [touched]
  exact ⟨⟨h.perm, h.sorted, h.keys_nodup, fun y hy => Nat.le_succ_of_le (h.stamp_le_clock y hy),
    h.order_eq, h.total_eq, h.total_lt⟩, rfl⟩

theorem Stamped.remove (h : c.Stamped L) (key : String) :
    (c.remove key).Stamped (L.filter (·.1 != key)) := by
  unfold LruCache.remove
  split
  · next missing =>
    rw [filter_key_of_not_mem (h.not_mem_of_find? missing)]
    exact h
  · next e found =>
    have mem := h.mem_of_find? found
    have weighed := weight_filter_key h.keys_nodup mem
    have within : e.weight ≤ c.total := by rw [h.total_eq]; omega
    refine ⟨h.perm.filter _, h.sorted.filter _, keys_nodup_filter h.keys_nodup _,
      fun y hy => h.stamp_le_clock y (List.mem_of_mem_filter hy), ?_, ?_, ?_⟩
    · rw [h.order_eq, orderErase_map (stamps_nodup_of_sorted h.sorted) h.keys_nodup mem]
    · dsimp only
      rw [wordSub_of_le within h.total_lt, h.total_eq]
      omega
    · rw [wordSub_of_le within h.total_lt]
      exact lt_of_le_of_lt (Nat.sub_le _ _) h.total_lt

@[simp] theorem remove_max (key : String) : (c.remove key).max = c.max := by
  unfold LruCache.remove; split <;> rfl

@[simp] theorem remove_hits (key : String) : (c.remove key).hits = c.hits := by
  unfold LruCache.remove; split <;> rfl

@[simp] theorem remove_misses (key : String) : (c.remove key).misses = c.misses := by
  unfold LruCache.remove; split <;> rfl

@[simp] theorem remove_evictions (key : String) : (c.remove key).evictions = c.evictions := by
  unfold LruCache.remove; split <;> rfl

theorem Stamped.evictToBudget_go (h : c.Stamped L) (fuel : Nat) (enough : L.length < fuel)
    (log : Array LogRecord) :
    let dropped := (RecencyList.trim c.max (L.map keyWeight)).2
    ∃ entries order total, ((evictToBudget.go fuel c).run log).run.1 =
        { c with entries, order, total, evictions := c.evictions + dropped } ∧
      ({ c with entries, order, total, evictions := c.evictions + dropped } : LruCache V).Stamped
        (L.drop dropped) := by
  induction L generalizing c fuel log with
  | nil =>
    obtain ⟨fuel, rfl⟩ : ∃ f, fuel = f + 1 := ⟨fuel - 1, by simp at enough; omega⟩
    have within : ¬c.total > c.max := by simp [h.total_eq]
    refine ⟨c.entries, c.order, c.total, ?_, h⟩
    simp only [evictToBudget.go, within, if_false]
    rfl
  | cons first rest ih =>
    obtain ⟨fuel, rfl⟩ : ∃ f, fuel = f + 1 := ⟨fuel - 1, by simp at enough; omega⟩
    by_cases exceeds : c.total > c.max
    · -- the first key of the stamp map is the oldest entry: it goes, and eviction goes on
      have trimmed : RecencyList.trim c.max ((first :: rest).map keyWeight) =
          ((RecencyList.trim c.max (rest.map keyWeight)).1,
            (RecencyList.trim c.max (rest.map keyWeight)).2 + 1) := by
        rw [List.map_cons, RecencyList.trim, if_pos (by rw [← List.map_cons, ← h.total_eq]; exact exceeds)]
      have fresh : first.1 ∉ rest.map (·.1) := (List.nodup_cons.mp h.keys_nodup).1
      have kept : (first :: rest).filter (·.1 != first.1) = rest := by
        rw [List.filter_cons_of_neg (by simp), filter_key_of_not_mem fresh]
      have weighed := h.total_eq
      simp only [List.map_cons, RecencyList.weight_cons, keyWeight] at weighed
      have within : first.2.weight ≤ c.total := by omega
      have front : c.order = (first.2.stamp, first.1) :: rest.map stampKey := by
        rw [h.order_eq, List.map_cons]
        rfl
      let c₁ : LruCache V :=
        { c with
          entries := c.entries.filter (·.1 != first.1)
          order := rest.map stampKey
          total := c.total - first.2.weight
          evictions := c.evictions + 1 }
      have h₁ : c₁.Stamped rest := by
        refine ⟨kept ▸ h.perm.filter _, (List.pairwise_cons.mp h.sorted).2,
          (List.nodup_cons.mp h.keys_nodup).2,
          fun y hy => h.stamp_le_clock y (List.mem_cons_of_mem _ hy), rfl, ?_, ?_⟩
        · simp only [c₁]
          omega
        · exact lt_of_le_of_lt (Nat.sub_le _ _) h.total_lt
      obtain ⟨entries, order, total, run, stamped⟩ := ih h₁ fuel (by simpa using enough)
        (log.push ⟨.debug, .lru, c.name ++ ": evicted entry of weight " ++ toString first.2.weight⟩)
      refine ⟨entries, order, total, ?_, ?_⟩
      · simp only [evictToBudget.go, exceeds, if_true, front, h.find?_of_mem List.mem_cons_self,
          wordSub_of_le within h.total_lt]
        rw [trimmed]
        simp only [c₁] at run
        rw [show c.evictions + ((RecencyList.trim c.max (rest.map keyWeight)).2 + 1) =
          c.evictions + 1 + (RecencyList.trim c.max (rest.map keyWeight)).2 by omega]
        exact run
      · rw [trimmed, List.drop_succ_cons]
        simp only [c₁] at stamped
        rw [show c.evictions + ((RecencyList.trim c.max (rest.map keyWeight)).2 + 1) =
          c.evictions + 1 + (RecencyList.trim c.max (rest.map keyWeight)).2 by omega]
        exact stamped
    · -- within the budget nothing goes
      have trimmed : RecencyList.trim c.max ((first :: rest).map keyWeight) =
          ((first :: rest).map keyWeight, 0) :=
        RecencyList.trim_of_weight_le (by rw [← h.total_eq]; omega)
      refine ⟨c.entries, c.order, c.total, ?_, ?_⟩
      · simp only [evictToBudget.go, exceeds, if_false, trimmed]
        rfl
      · rw [trimmed]
        exact h

theorem find?_key_of_mem (nodup : (L.map (·.1)).Nodup) {key : String} {e : Entry V}
    (mem : (key, e) ∈ L) : L.find? (·.1 == key) = some (key, e) := by
  cases found : L.find? (·.1 == key) with
  | none =>
    have := List.find?_eq_none.mp found (key, e) mem
    simp at this
  | some x =>
    have hx : x.1 = key := by simpa using List.find?_some found
    rw [List.inj_on_of_nodup_map nodup (List.mem_of_find?_eq_some found) mem hx]

end Operations

/-! ### Every call keeps the cache tracking its list -/

section Calls

variable {c : LruCache V} {m : RecencyList} {L : List (String × Entry V)}

theorem erase_map_keyWeight (key : String) :
    RecencyList.erase key (L.map keyWeight) = (L.filter (·.1 != key)).map keyWeight := by
  rw [RecencyList.erase, List.filter_map]
  rfl

theorem Stamped.evictToBudget_tracks (h : c.Stamped L) (log : Array LogRecord)
    (order : L.map keyWeight = m.order) (budget : c.max = m.budget) (hits : c.hits = m.hits)
    (misses : c.misses = m.misses) (evictions : c.evictions = m.evictions) :
    ((c.evictToBudget).run log).run.1.Tracks
      { m with
        order := (RecencyList.trim m.budget m.order).1
        evictions := m.evictions + (RecencyList.trim m.budget m.order).2 } := by
  obtain ⟨entries, order', total, run, stamped⟩ :=
    h.evictToBudget_go (c.order.length + 1) (by rw [h.order_eq, List.length_map]; omega) log
  have kept : (L.drop (RecencyList.trim c.max (L.map keyWeight)).2).map keyWeight =
      (RecencyList.trim c.max (L.map keyWeight)).1 := by
    rw [List.map_drop, ← RecencyList.trim_fst_eq_drop]
  unfold evictToBudget
  rw [run]
  rw [← order, ← budget]
  refine Tracks.of_stamped stamped kept ?_ rfl hits misses (by simp [evictions])
  rw [stamped.total_eq, kept]
  exact RecencyList.weight_trim_le _ _

theorem find?_map_keyWeight (key : String) :
    (L.map keyWeight).find? (·.1 == key) = (L.find? (·.1 == key)).map keyWeight := by
  rw [List.find?_map]
  rfl

def tally (c : LruCache V) : Nat × Nat × Nat × Nat × Nat :=
  (c.total, c.max, c.hits, c.misses, c.evictions)

theorem Tracks.of_tally (h : c.Tracks m) {c' : LruCache V} {m' : RecencyList}
    {L' : List (String × Entry V)} (stamped : c'.Stamped L') (order : L'.map keyWeight = m'.order)
    (same : c'.tally = c.tally) (same' : m'.tally = m.tally) : c'.Tracks m' := by
  simp only [tally, RecencyList.tally, Prod.mk.injEq] at same same'
  obtain ⟨total, max, hits, misses, evictions⟩ := same
  obtain ⟨budget, hits', misses', evictions'⟩ := same'
  exact Tracks.of_stamped stamped order (by rw [total, max]; exact h.total_le)
    (by rw [max, budget]; exact h.max_eq) (by rw [hits, hits']; exact h.hits_eq)
    (by rw [misses, misses']; exact h.misses_eq) (by rw [evictions, evictions']; exact h.evictions_eq)

@[simp] theorem touch_tally (key : String) : (c.touch key).1.tally = c.tally := by
  unfold LruCache.touch
  split <;> rfl

theorem Tracks.touch (h : c.Tracks m) (key : String) :
    (c.touch key).1.Tracks (m.get key) ∧ (c.touch key).2.isSome = m.order.any (·.1 == key) := by
  obtain ⟨L, stamped, order⟩ := h.stamped
  by_cases listed : key ∈ L.map (·.1)
  · obtain ⟨⟨k, e⟩, mem, hk⟩ := List.mem_map.mp listed
    simp only at hk
    subst hk
    obtain ⟨touched, found⟩ := stamped.touch_of_mem mem
    have onList : m.get k = { m with order := RecencyList.erase k m.order ++ [(k, e.weight)] } := by
      rw [RecencyList.get, ← order, find?_map_keyWeight, find?_key_of_mem stamped.keys_nodup mem]
      rfl
    rw [onList, found]
    refine ⟨h.of_tally touched ?_ (touch_tally k) rfl, ?_⟩
    · rw [← order, erase_map_keyWeight, List.map_append]
      rfl
    · rw [← order]
      simp only [Option.isSome_some, List.any_map]
      exact (List.any_eq_true.mpr ⟨(k, e), mem, by simp [keyWeight]⟩).symm
  · obtain ⟨touched, missed⟩ := stamped.touch_of_not_mem listed
    have notFound : L.find? (·.1 == key) = none :=
      List.find?_eq_none.mpr fun x hx hk =>
        listed (List.mem_map.mpr ⟨x, hx, by simpa using hk⟩)
    have absent : m.order.any (·.1 == key) = false := by
      rw [← order, List.any_map]
      exact List.any_eq_false.mpr fun x hx hk =>
        listed (List.mem_map.mpr ⟨x, hx, by simpa [keyWeight] using hk⟩)
    have onList : m.get key = m := by
      rw [RecencyList.get, ← order, find?_map_keyWeight, notFound]
      rfl
    rw [onList, missed, absent]
    exact ⟨h.of_tally touched order (touch_tally key) rfl, rfl⟩

theorem Tracks.hit (h : c.Tracks m) :
    ({ c with hits := c.hits + 1 } : LruCache V).Tracks { m with hits := m.hits + 1 } :=
  { h with hits_eq := by simp [h.hits_eq] }

theorem Tracks.miss (h : c.Tracks m) :
    ({ c with misses := c.misses + 1 } : LruCache V).Tracks { m with misses := m.misses + 1 } :=
  { h with misses_eq := by simp [h.misses_eq] }

theorem Tracks.lookup (h : c.Tracks m) (key : String) :
    (c.lookup key).1.Tracks (if m.order.any (·.1 == key) then { m.get key with hits := m.hits + 1 }
      else { m with misses := m.misses + 1 }) ∧
    (c.lookup key).2.isSome = m.order.any (·.1 == key) := by
  obtain ⟨touched, found⟩ := h.touch key
  unfold LruCache.lookup
  cases hit : c.touch key with
  | mk c' r =>
    rw [hit] at touched found
    cases r with
    | some v =>
      have present : m.order.any (·.1 == key) = true := found.symm
      have counted := touched.hit
      have sameHits : (m.get key).hits = m.hits := congrArg (·.2.1) (m.get_tally key)
      rw [sameHits] at counted
      simp only [present, if_true]
      exact ⟨counted, rfl⟩
    | none =>
      have absent : m.order.any (·.1 == key) = false := found.symm
      have same : m.get key = m := by
        unfold RecencyList.get
        split
        · next e found' =>
          have := List.any_eq_true.mpr ⟨e, List.mem_of_find?_eq_some found', List.find?_some found'⟩
          rw [this] at absent
          cases absent
        · rfl
      rw [same] at touched
      simp only [absent, Bool.false_eq_true, if_false]
      exact ⟨touched.miss, rfl⟩

theorem Tracks.insert (h : c.Tracks m) (key : String) (value : V) (w : Nat)
    (fits : m.FitsWord key w) (log : Array LogRecord) :
    ((c.insert key value w).run log).run.1.Tracks (m.insert key w) := by
  obtain ⟨L, stamped, order⟩ := h.stamped
  have removed := stamped.remove key
  have erased : RecencyList.erase key m.order = (L.filter (·.1 != key)).map keyWeight := by
    rw [← order, erase_map_keyWeight]
  have lighter : (c.remove key).total ≤ c.total := by
    rw [removed.total_eq, stamped.total_eq]
    exact weight_filter_le _
  unfold LruCache.insert RecencyList.insert
  by_cases heavy : w > c.max
  · -- a value heavier than the budget is not kept, and what is left already fits
    have fitsBudget : RecencyList.weight (RecencyList.erase key m.order) ≤ m.budget := by
      rw [erased, ← removed.total_eq, ← h.max_eq]
      exact lighter.trans h.total_le
    have refused : ¬w ≤ m.budget := by rw [← h.max_eq]; omega
    simp only [remove_max, heavy, if_true, refused, if_false, List.append_nil,
      RecencyList.trim_of_weight_le fitsBudget, Nat.add_zero]
    show (c.remove key).Tracks _
    exact Tracks.of_stamped removed erased.symm
      (by rw [remove_max]; exact lighter.trans h.total_le) (by rw [remove_max]; exact h.max_eq)
      (by rw [remove_hits]; exact h.hits_eq) (by rw [remove_misses]; exact h.misses_eq)
      (by rw [remove_evictions]; exact h.evictions_eq)
  · -- the value is appended with a stamp past every other, then the oldest are evicted
    have accepted : w ≤ m.budget := by rw [← h.max_eq]; omega
    have within : (c.remove key).total + w < wordModulus := by
      rw [removed.total_eq, ← erased]
      exact fits accepted
    simp only [remove_max, heavy, if_false, accepted, if_true]
    let stored : Entry V := ⟨value, w, (c.remove key).clock + 1⟩
    have appended : ({ c.remove key with
        max := c.max
        clock := (c.remove key).clock + 1
        order := orderInsert ((c.remove key).clock + 1) key (c.remove key).order
        entries := (c.remove key).entries ++ [(key, stored)]
        total := wordAdd (c.remove key).total w } : LruCache V).Stamped
          (L.filter (·.1 != key) ++ [(key, stored)]) := by
      refine ⟨removed.perm.append_right _, sorted_append_later removed.sorted fun y hy =>
          Nat.lt_succ_of_le (removed.stamp_le_clock y hy),
        keys_nodup_append_fresh removed.keys_nodup (not_mem_keys_filter_key key), ?_, ?_, ?_, ?_⟩
      · intro y hy
        rcases List.mem_append.mp hy with hy | hy
        · exact Nat.le_succ_of_le (removed.stamp_le_clock y hy)
        · rw [List.mem_singleton] at hy
          subst hy
          exact le_rfl
      · rw [removed.order_eq, orderInsert_after_clock removed key (Nat.lt_succ_self _)
          (List.Sublist.refl _), List.map_append]
        rfl
      · rw [wordAdd_of_lt within]
        simp [removed.total_eq, keyWeight, stored]
      · rw [wordAdd_of_lt within]
        exact within
    exact appended.evictToBudget_tracks log (m := { m with order := RecencyList.erase key m.order ++ [(key, w)] })
      (by rw [erased, List.map_append]; rfl) h.max_eq (by rw [remove_hits]; exact h.hits_eq) (by rw [remove_misses]; exact h.misses_eq)
      (by rw [remove_evictions]; exact h.evictions_eq)

theorem Tracks.getOrCompute {ε : Type} (h : c.Tracks m) (key : String)
    (compute : Unit → Except ε V) (weight : V → Nat)
    (fits : m.order.any (·.1 == key) = false →
      m.FitsComputed key ((compute ()).toOption.map weight))
    (log : Array LogRecord) :
    ((c.getOrCompute key compute weight).run log).run.1.1.Tracks
      (m.getOrCompute key ((compute ()).toOption.map weight)) := by
  obtain ⟨looked, found⟩ := h.lookup key
  unfold LruCache.getOrCompute RecencyList.getOrCompute
  cases hit : c.lookup key with
  | mk c' r =>
    rw [hit] at looked found
    cases r with
    | some v =>
      have present : m.order.any (·.1 == key) = true := found.symm
      simp only [present, if_true] at looked ⊢
      exact looked
    | none =>
      have absent : m.order.any (·.1 == key) = false := found.symm
      simp only [absent, Bool.false_eq_true, if_false] at looked ⊢
      cases computed : compute () with
      | error e => exact looked
      | ok v =>
        have stores := fits absent
        rw [computed] at stores
        exact looked.insert key v (weight v) stores log

theorem Tracks.setMax (h : c.Tracks m) (max : Nat) (log : Array LogRecord) :
    ((c.setMax max).run log).run.1.Tracks (m.setBudget max) := by
  obtain ⟨L, stamped, order⟩ := h.stamped
  have restamped : ({ c with max } : LruCache V).Stamped L :=
    ⟨stamped.perm, stamped.sorted, stamped.keys_nodup, stamped.stamp_le_clock, stamped.order_eq,
      stamped.total_eq, stamped.total_lt⟩
  exact restamped.evictToBudget_tracks log (m := { m with budget := max }) order rfl h.hits_eq
    h.misses_eq h.evictions_eq

theorem stamped_nil {c : LruCache V} (empty : c.entries = []) (unmapped : c.order = [])
    (zero : c.total = 0) : c.Stamped [] :=
  ⟨empty ▸ List.Perm.nil, List.Pairwise.nil, List.nodup_nil, (fun _ hx => by cases hx), unmapped,
    zero, by rw [zero]; decide⟩

theorem Tracks.clear (h : c.Tracks m) : c.clear.Tracks m.clear :=
  Tracks.of_stamped (stamped_nil rfl rfl rfl) rfl (Nat.zero_le _) h.max_eq h.hits_eq h.misses_eq
    h.evictions_eq

end Calls

end LruCache

/-- A call on a cache: a lookup, a store, a lookup that computes the value on a miss, a new
budget, or clearing every entry. -/
inductive CacheCall (ε V : Type) where
  | get (key : String)
  | insert (key : String) (value : V) (weight : Nat)
  | getOrCompute (key : String) (compute : Unit → Except ε V) (weight : V → Nat)
  | setMax (max : Nat)
  | clear

namespace CacheCall

variable {ε V : Type}

def run : CacheCall ε V → LruCache V → Logged (LruCache V)
  | .get key, c => pure (c.get key).1
  | .insert key value weight, c => c.insert key value weight
  | .getOrCompute key compute weight, c => Prod.fst <$> c.getOrCompute key compute weight
  | .setMax max, c => c.setMax max
  | .clear, c => pure c.clear

def onList : CacheCall ε V → RecencyList → RecencyList
  | .get key, m => m.get key
  | .insert key _ weight, m => m.insert key weight
  | .getOrCompute key compute weight, m => m.getOrCompute key ((compute ()).toOption.map weight)
  | .setMax max, m => m.setBudget max
  | .clear, m => m.clear

/-- The call adds to the total no weight that passes a machine word: a store, or the store on a
miss of a lookup that computes. -/
def FitsWord : CacheCall ε V → RecencyList → Prop
  | .insert key _ weight, m => m.FitsWord key weight
  | .getOrCompute key compute weight, m =>
    m.order.any (·.1 == key) = false → m.FitsComputed key ((compute ()).toOption.map weight)
  | _, _ => True

instance : (call : CacheCall ε V) → (m : RecencyList) → Decidable (call.FitsWord m)
  | .get _, _ => inferInstanceAs (Decidable True)
  | .insert key _ weight, m => inferInstanceAs (Decidable (m.FitsWord key weight))
  | .getOrCompute _ _ _, _ => inferInstanceAs (Decidable (_ → _))
  | .setMax _, _ => inferInstanceAs (Decidable True)
  | .clear, _ => inferInstanceAs (Decidable True)

/-- No call of a run, made on the list the calls before it leave, adds past a machine word. -/
def NoWrap : List (CacheCall ε V) → RecencyList → Prop
  | [], _ => True
  | call :: calls, m => call.FitsWord m ∧ NoWrap calls (call.onList m)

instance decNoWrap : (calls : List (CacheCall ε V)) → (m : RecencyList) →
    Decidable (NoWrap calls m)
  | [], _ => inferInstanceAs (Decidable True)
  | call :: calls, m =>
    have := decNoWrap calls (call.onList m)
    inferInstanceAs (Decidable (_ ∧ _))

theorem run_tracks {c : LruCache V} {m : RecencyList} (h : c.Tracks m) (call : CacheCall ε V)
    (fits : call.FitsWord m) (log : Array LogRecord) :
    ((call.run c).run log).run.1.Tracks (call.onList m) := by
  cases call with
  | get key => exact (h.touch key).1
  | insert key value weight => exact h.insert key value weight fits log
  | getOrCompute key compute weight => exact h.getOrCompute key compute weight fits log
  | setMax max => exact h.setMax max log
  | clear => exact h.clear

end CacheCall

namespace LruCache

variable {ε V : Type}

def runCalls (calls : List (CacheCall ε V)) (c : LruCache V) : Logged (LruCache V) :=
  calls.foldlM (fun c call => call.run c) c

theorem Tracks.runCalls {c : LruCache V} {m : RecencyList} (h : c.Tracks m)
    (calls : List (CacheCall ε V)) (noWrap : CacheCall.NoWrap calls m) (log : Array LogRecord) :
    ((LruCache.runCalls calls c).run log).run.1.Tracks (calls.foldl (fun m call => call.onList m) m) := by
  induction calls generalizing c m log with
  | nil => exact h
  | cons call calls ih =>
    have first := CacheCall.run_tracks h call noWrap.1 log
    simp only [LruCache.runCalls, List.foldlM_cons, List.foldl_cons] at ih ⊢
    exact ih first noWrap.2 _

theorem tracks_create (name : String) (max : Nat) :
    (create name max : LruCache V).Tracks { budget := max } :=
  Tracks.of_stamped (stamped_nil rfl rfl rfl) rfl (Nat.zero_le _) rfl rfl rfl rfl

/-- From an empty cache, whatever calls are made, as long as no store adds past a machine word,
the cache tracks the recency list the same calls make: every key has one entry and every entry a
stamp of its own, no later than the clock; the stamp map holds exactly the entries' stamps with
their keys, in stamp order, and its keys are the list from least to most recently used; read in
stamp order the entries are the list; the total is the list's weight and within the budget; and
the hits, misses and evictions are the list's. -/
theorem calls_track_recencyList (name : String) (max : Nat) (calls : List (CacheCall ε V))
    (noWrap : CacheCall.NoWrap calls { budget := max }) (log : Array LogRecord) :
    ((runCalls calls (create name max)).run log).run.1.Tracks
      (calls.foldl (fun m call => call.onList m) { budget := max }) :=
  (tracks_create name max).runCalls calls noWrap log

/-- Three stores under a budget of 30, a lookup of the first, a fourth store that evicts the
second, and a lookup that computes a fifth value on its miss. -/
def lruExample : List (CacheCall String Nat) :=
  [.insert "a" 10 10, .insert "b" 10 10, .insert "c" 10 10, .get "a", .insert "d" 10 10,
    .getOrCompute "e" (fun _ => .ok 5) id]

theorem calls_track_recencyList_lruExample :
    CacheCall.NoWrap lruExample { budget := 30 } ∧
      ((runCalls lruExample (create "test" 30)).run #[]).run.1.Tracks
        (lruExample.foldl (fun m call => call.onList m) { budget := 30 }) :=
  have noWrap : CacheCall.NoWrap lruExample { budget := 30 } := by decide
  ⟨noWrap, calls_track_recencyList "test" 30 lruExample noWrap #[]⟩

/-- Two stores of weight `2^63` under the largest budget: the second addition passes the largest
word, so the total wraps to 0 and nothing is evicted, though the weights kept add up to `2^64`. -/
theorem insert_wraps_total_past_word :
    let c := (((create "test" 18446744073709551615 : LruCache Nat).insert "a" 0
      9223372036854775808).run #[]).run.1
    let c' := ((c.insert "b" 0 9223372036854775808).run #[]).run.1
    c'.total = 0 ∧ c'.entries.map (·.1) = ["a", "b"] ∧
      (c'.entries.map (·.2.weight)).sum = 18446744073709551616 := by
  decide

end LruCache

end CsgPreview.Cache
