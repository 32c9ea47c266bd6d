import Mathlib
import CsgPreview.Files.Path

/-!
The order paths are sorted in, and what sorting a list of paths gives.

Paths compare component by component, and two components by kind and then by the bytes of
their names: a lexicographic order of lexicographic orders, so a total preorder whose ties are
exactly the spellings of one path. Sorting a list and keeping the first spelling of each path
gives a strictly increasing list that names every path of the input once.
-/

namespace CsgPreview.Files

/-! ### Strings as bytes -/

theorem byteArray_toList_eq (b : ByteArray) : b.toList = b.data.toList := by
  have loop : ∀ i r, ByteArray.toList.loop b i r = r.reverse ++ b.data.toList.drop i := by
    intro i r
    fun_induction ByteArray.toList.loop b i r with
    | case1 i r inside ih =>
      rw [ih]
      have bound : i < b.data.toList.length := by simpa using inside
      have at_i : b.get! i = b.data.toList[i] := by
        simp [ByteArray.get!, inside]
      rw [at_i, List.reverse_cons, List.append_assoc, List.singleton_append,
        List.cons_getElem_drop_succ]
    | case2 i r outside =>
      have past : b.data.toList.length ≤ i := Nat.le_of_not_lt outside
      simp [List.drop_eq_nil_of_le past]
  simpa [ByteArray.toList] using loop 0 []

theorem toUTF8_toList_inj {s t : String} (h : s.toUTF8.toList = t.toUTF8.toList) : s = t := by
  rw [byteArray_toList_eq, byteArray_toList_eq] at h
  apply String.toByteArray_inj.1
  simpa [ByteArray.ext_iff] using h

/-! ### The order of components and of paths -/

def Component.bytes : Component → List UInt8
  | .name t => t.toUTF8.toList
  | _ => []

theorem Component.compare_eq_compareLex (a b : Component) :
    a.compare b = compareLex (compareOn Component.kind) (compareOn Component.bytes) a b := by
  cases a <;> cases b <;> simp [Component.compare, compareLex, compareOn, Component.kind,
    Component.bytes] <;> rfl

instance : Std.TransCmp Component.compare := by
  rw [show Component.compare = compareLex (compareOn Component.kind) (compareOn Component.bytes)
    from funext₂ Component.compare_eq_compareLex]
  infer_instance

instance : Std.LawfulEqCmp Component.compare where
  eq_of_compare {a b} h := by
    rw [Component.compare_eq_compareLex, compareLex_eq_eq] at h
    obtain ⟨kinds, bytes⟩ := h
    simp only [compareOn, Std.compare_eq_iff_eq] at kinds bytes
    cases a <;> cases b <;> simp_all [Component.kind, Component.bytes]
    exact toUTF8_toList_inj bytes
  compare_self := by
    intro a
    rw [Component.compare_eq_compareLex]
    exact Std.ReflCmp.compare_self

theorem compareComponents_eq_compareLex :
    compareComponents = List.compareLex Component.compare := by
  funext xs ys
  induction xs generalizing ys with
  | nil => cases ys <;> rfl
  | cons x xs ih =>
    cases ys with
    | nil => rfl
    | cons y ys =>
      simp only [compareComponents, List.compareLex_cons_cons, ih]
      cases x.compare y <;> rfl

theorem comparePaths_eq (a b : String) :
    comparePaths a b = List.compareLex Component.compare (components a) (components b) := by
  rw [comparePaths, compareComponents_eq_compareLex]

theorem comparePaths_eq_eq_iff {a b : String} : comparePaths a b = .eq ↔ samePath a b := by
  rw [comparePaths_eq, Std.LawfulEqCmp.compare_eq_iff_eq, samePath, beq_iff_eq]

theorem comparePaths_isLE_trans {a b c : String} (hab : (comparePaths a b).isLE)
    (hbc : (comparePaths b c).isLE) : (comparePaths a c).isLE := by
  rw [comparePaths_eq] at *
  exact Std.TransCmp.isLE_trans hab hbc

theorem comparePaths_total (a b : String) : (comparePaths a b).isLE || (comparePaths b a).isLE := by
  have swap : List.compareLex Component.compare (components b) (components a) =
      (List.compareLex Component.compare (components a) (components b)).swap :=
    Std.OrientedCmp.eq_swap
  rw [comparePaths_eq, comparePaths_eq, swap]
  cases List.compareLex Component.compare (components a) (components b) <;> rfl

theorem samePath_iff {a b : String} : samePath a b ↔ components a = components b := by
  rw [samePath, beq_iff_eq]

theorem comparePaths_congr_left {a b : String} (c : String) (same : samePath a b) :
    comparePaths a c = comparePaths b c := by
  rw [comparePaths, comparePaths, samePath_iff.1 same]

theorem comparePaths_lt_trans {a b c : String} (hab : comparePaths a b = .lt)
    (hbc : comparePaths b c = .lt) : comparePaths a c = .lt := by
  rw [comparePaths_eq] at *
  exact Std.TransCmp.lt_trans hab hbc

theorem comparePaths_lt_of_isLE {a b : String} (le : (comparePaths a b).isLE)
    (apart : ¬ samePath a b) : comparePaths a b = .lt := by
  rw [← comparePaths_eq_eq_iff] at apart
  revert le apart
  cases comparePaths a b <;> simp

/-! ### Sorting -/

def dropRepeats (sorted : List String) : List String :=
  sorted.foldr (fun p acc =>
    match acc with
    | q :: _ => if samePath p q then p :: acc.tail else p :: acc
    | [] => [p]) []

theorem sortPaths_eq_dropRepeats (paths : List String) :
    sortPaths paths = dropRepeats (paths.mergeSort fun a b => comparePaths a b != .gt) := rfl

theorem dropRepeats_cons (p : String) (rest : List String) :
    dropRepeats (p :: rest) =
      match dropRepeats rest with
      | q :: t => if samePath p q then p :: t else p :: q :: t
      | [] => [p] := by
  unfold dropRepeats
  rw [List.foldr_cons]
  generalize List.foldr _ [] rest = acc
  cases acc <;> rfl

theorem dropRepeats_cons_keeps (p : String) (rest : List String) :
    ∃ t, dropRepeats (p :: rest) = p :: t ∧ (∀ y ∈ t, y ∈ dropRepeats rest) ∧
      ∀ y ∈ dropRepeats rest, y ∈ t ∨ samePath y p := by
  rw [dropRepeats_cons]
  split
  · next q t kept =>
    rw [kept]
    split
    · next same =>
      refine ⟨t, rfl, fun y hy => .tail _ hy, fun y hy => ?_⟩
      rcases List.mem_cons.1 hy with rfl | later
      · exact .inr (samePath_iff.2 (samePath_iff.1 same).symm)
      · exact .inl later
    · exact ⟨q :: t, rfl, fun _ hy => hy, fun _ hy => .inl hy⟩
  · next empty =>
    rw [empty]
    exact ⟨[], rfl, fun _ hy => hy, fun _ hy => .inl hy⟩

theorem mem_of_mem_dropRepeats {x : String} {sorted : List String} (h : x ∈ dropRepeats sorted) :
    x ∈ sorted := by
  induction sorted with
  | nil => simp [dropRepeats] at h
  | cons p rest ih =>
    obtain ⟨t, shape, fromRest, -⟩ := dropRepeats_cons_keeps p rest
    rw [shape] at h
    rcases List.mem_cons.1 h with rfl | later
    · exact .head _
    · exact .tail _ (ih (fromRest x later))

theorem exists_samePath_mem_dropRepeats {x : String} {sorted : List String} (h : x ∈ sorted) :
    ∃ y ∈ dropRepeats sorted, samePath x y := by
  induction sorted with
  | nil => simp at h
  | cons p rest ih =>
    obtain ⟨t, shape, -, covered⟩ := dropRepeats_cons_keeps p rest
    rw [shape]
    rcases List.mem_cons.1 h with rfl | later
    · exact ⟨x, .head _, samePath_iff.2 rfl⟩
    · obtain ⟨y, hy, sy⟩ := ih later
      rcases covered y hy with stays | replaced
      · exact ⟨y, .tail _ stays, sy⟩
      · refine ⟨p, .head _, samePath_iff.2 ?_⟩
        exact (samePath_iff.1 sy).trans (samePath_iff.1 replaced)

theorem pairwise_lt_dropRepeats {sorted : List String}
    (h : sorted.Pairwise fun a b => (comparePaths a b).isLE) :
    (dropRepeats sorted).Pairwise fun a b => comparePaths a b = .lt := by
  induction sorted with
  | nil => exact .nil
  | cons p rest ih =>
    obtain ⟨first, restSorted⟩ := List.pairwise_cons.1 h
    have below : ∀ y ∈ dropRepeats rest, (comparePaths p y).isLE :=
      fun y hy => first y (mem_of_mem_dropRepeats hy)
    have tail := ih restSorted
    rw [dropRepeats_cons]
    split
    · next q t kept =>
      rw [kept] at tail below
      obtain ⟨qFirst, tSorted⟩ := List.pairwise_cons.1 tail
      split
      · next same =>
        -- `p` takes the place of its repeat `q`, which is below all of `t`
        refine List.pairwise_cons.2 ⟨fun y hy => ?_, tSorted⟩
        rw [comparePaths_congr_left y same]
        exact qFirst y hy
      · next apart =>
        have pq : comparePaths p q = .lt := comparePaths_lt_of_isLE (below q (.head _)) apart
        refine List.pairwise_cons.2 ⟨fun y hy => ?_, tail⟩
        rcases List.mem_cons.1 hy with rfl | deeper
        · exact pq
        · exact comparePaths_lt_trans pq (qFirst y deeper)
    · exact List.pairwise_singleton _ _

theorem sortPaths_pairwise_lt (paths : List String) :
    (sortPaths paths).Pairwise fun a b => comparePaths a b = .lt := by
  rw [sortPaths_eq_dropRepeats]
  apply pairwise_lt_dropRepeats
  -- the sort's test `comparePaths a b != .gt` is `isLE` spelled out
  have sorted : (paths.mergeSort fun a b => comparePaths a b != .gt).Pairwise
      fun a b => comparePaths a b != .gt := List.pairwise_mergeSort
    (fun a b c hab hbc => by
      simp only [bne, ← Ordering.isLE_eq_not_beq_gt] at *
      exact comparePaths_isLE_trans hab hbc)
    (fun a b => by
      simp only [bne, ← Ordering.isLE_eq_not_beq_gt]
      exact comparePaths_total a b) paths
  refine sorted.imp fun {a b} le => ?_
  simpa only [bne, ← Ordering.isLE_eq_not_beq_gt] using le

theorem sortPaths_pairwise_apart (paths : List String) :
    (sortPaths paths).Pairwise fun a b => ¬ samePath a b :=
  (sortPaths_pairwise_lt paths).imp fun {a b} lt same => by
    rw [← comparePaths_eq_eq_iff, lt] at same
    cases same

theorem mem_of_mem_sortPaths {x : String} {paths : List String} (h : x ∈ sortPaths paths) :
    x ∈ paths :=
  List.mem_mergeSort.1 (mem_of_mem_dropRepeats h)

theorem exists_samePath_mem_sortPaths {x : String} {paths : List String} (h : x ∈ paths) :
    ∃ y ∈ sortPaths paths, samePath x y :=
  exists_samePath_mem_dropRepeats (List.mem_mergeSort.2 h)

end CsgPreview.Files
