import Mathlib
import CsgPreview.Arith.Basic

/-!
Comparisons of doubles away from NaN are those of a linear order.

Lean's model of a double compares two unpacked values by sign class (negative infinity, negative
finite, zero of either sign, positive finite, positive infinity), then by exponent and mantissa,
read downwards for negative numbers; NaN compares with nothing. So every value but NaN has a
rank in a lexicographic order, and `≤` and `<` on doubles are that order's `≤` and `<`. From it
come the bounds on `fmin` and `fmax` that box arithmetic rests on.
-/

namespace CsgPreview.Arith

open Float.Model UnpackedFloat

def unpackedRank : UnpackedFloat → Option (ℕ ×ₗ ℤ ×ₗ ℤ)
  | .notANumber => none
  | .infinity .negative => some (toLex (0, toLex (0, 0)))
  | .finite .negative m e _ => some (toLex (1, toLex (-e, -(m : ℤ))))
  | .zero _ => some (toLex (2, toLex (0, 0)))
  | .finite .positive m e _ => some (toLex (3, toLex (e, (m : ℤ))))
  | .infinity .positive => some (toLex (4, toLex (0, 0)))

section Lexicographic

variable {α β : Type} [LinearOrder α] [LinearOrder β]

theorem then_isLE_iff (a₁ a₂ : α) (b₁ b₂ : β) :
    ((compare a₁ a₂).then (compare b₁ b₂)).isLE = true ↔ a₁ < a₂ ∨ a₁ = a₂ ∧ b₁ ≤ b₂ := by
  rcases lt_trichotomy a₁ a₂ with lt | rfl | gt
  · simp [compare_lt_iff_lt.mpr lt, Ordering.then, lt]
  · simp [Ordering.then, Ordering.isLE_iff_ne_gt, compare_le_iff_le]
  · simp [compare_gt_iff_gt.mpr gt, Ordering.then, gt.ne', gt.le.not_gt]

theorem then_eq_lt_iff (a₁ a₂ : α) (b₁ b₂ : β) :
    (compare a₁ a₂).then (compare b₁ b₂) = .lt ↔ a₁ < a₂ ∨ a₁ = a₂ ∧ b₁ < b₂ := by
  rcases lt_trichotomy a₁ a₂ with lt | rfl | gt
  · simp [compare_lt_iff_lt.mpr lt, Ordering.then, lt]
  · simp [Ordering.then, compare_lt_iff_lt]
  · simp [compare_gt_iff_gt.mpr gt, Ordering.then, gt.ne', gt.le.not_gt]

theorem then_isGE_iff (a₁ a₂ : α) (b₁ b₂ : β) :
    ((compare a₁ a₂).then (compare b₁ b₂)).isGE = true ↔ a₂ < a₁ ∨ a₁ = a₂ ∧ b₂ ≤ b₁ := by
  rcases lt_trichotomy a₁ a₂ with lt | rfl | gt
  · simp [compare_lt_iff_lt.mpr lt, Ordering.then, lt.ne, lt.le.not_gt]
  · simp [Ordering.then, Ordering.isGE_iff_ne_lt, compare_lt_iff_lt]
  · simp [compare_gt_iff_gt.mpr gt, Ordering.then, gt]

theorem then_eq_gt_iff (a₁ a₂ : α) (b₁ b₂ : β) :
    (compare a₁ a₂).then (compare b₁ b₂) = .gt ↔ a₂ < a₁ ∨ a₁ = a₂ ∧ b₂ < b₁ := by
  rcases lt_trichotomy a₁ a₂ with lt | rfl | gt
  · simp [compare_lt_iff_lt.mpr lt, Ordering.then, lt.ne, lt.le.not_gt]
  · simp [Ordering.then, compare_gt_iff_gt]
  · simp [compare_gt_iff_gt.mpr gt, Ordering.then, gt]

end Lexicographic

/-! Unpacked values compare by rank. -/

theorem unpacked_le_iff (a b : UnpackedFloat) :
    a.le b = true ↔ ∃ x y, unpackedRank a = some x ∧ unpackedRank b = some y ∧ x ≤ y := by
  rcases a with (_ | _) | _ | (_ | _) | ⟨_ | _, m₁, e₁, h₁⟩ <;>
  rcases b with (_ | _) | _ | (_ | _) | ⟨_ | _, m₂, e₂, h₂⟩ <;>
  simp +decide [UnpackedFloat.le, UnpackedFloat.compare, unpackedRank, Prod.Lex.toLex_le_toLex,
    then_isLE_iff, then_isGE_iff]

theorem unpacked_lt_iff (a b : UnpackedFloat) :
    a.lt b = true ↔ ∃ x y, unpackedRank a = some x ∧ unpackedRank b = some y ∧ x < y := by
  rcases a with (_ | _) | _ | (_ | _) | ⟨_ | _, m₁, e₁, h₁⟩ <;>
  rcases b with (_ | _) | _ | (_ | _) | ⟨_ | _, m₂, e₂, h₂⟩ <;>
  simp +decide [UnpackedFloat.lt, UnpackedFloat.compare, unpackedRank, Prod.Lex.toLex_lt_toLex,
    then_eq_lt_iff, then_eq_gt_iff]

/-! Doubles compare by the rank of their unpacked value. -/

def floatRank (a : Float) : Option (ℕ ×ₗ ℤ ×ₗ ℤ) := unpackedRank a.toModel.unpack

theorem float_le_iff_rank {a b : Float} :
    a ≤ b ↔ ∃ x y, floatRank a = some x ∧ floatRank b = some y ∧ x ≤ y := by
  change Float.le a b = true ↔ _
  simp only [Float.le, decide_eq_true_eq]
  exact unpacked_le_iff _ _

theorem float_lt_iff_rank {a b : Float} :
    a < b ↔ ∃ x y, floatRank a = some x ∧ floatRank b = some y ∧ x < y := by
  change Float.lt a b = true ↔ _
  simp only [Float.lt, decide_eq_true_eq]
  exact unpacked_lt_iff _ _

theorem floatRank_eq_none_iff (a : Float) : floatRank a = none ↔ a.isNaN = true := by
  unfold floatRank Float.isNaN Float.Model.isNaN
  rcases a.toModel.unpack with (_ | _) | _ | (_ | _) | ⟨_ | _, m, e, h⟩ <;>
    simp [unpackedRank, UnpackedFloat.isNaN]

theorem float_le_trans {a b c : Float} (hab : a ≤ b) (hbc : b ≤ c) : a ≤ c := by
  obtain ⟨x, y, hx, hy, hxy⟩ := float_le_iff_rank.mp hab
  obtain ⟨y', z, hy', hz, hyz⟩ := float_le_iff_rank.mp hbc
  obtain rfl : y' = y := Option.some.inj (hy'.symm.trans hy)
  exact float_le_iff_rank.mpr ⟨x, z, hx, hz, hxy.trans hyz⟩

theorem float_le_of_lt {a b : Float} (h : a < b) : a ≤ b := by
  obtain ⟨x, y, hx, hy, hxy⟩ := float_lt_iff_rank.mp h
  exact float_le_iff_rank.mpr ⟨x, y, hx, hy, hxy.le⟩

theorem float_not_lt_of_le {a b : Float} (h : a ≤ b) : ¬b < a := by
  intro hlt
  obtain ⟨x, y, hx, hy, hxy⟩ := float_le_iff_rank.mp h
  obtain ⟨y', x', hy', hx', hyx⟩ := float_lt_iff_rank.mp hlt
  obtain rfl : x' = x := Option.some.inj (hx'.symm.trans hx)
  obtain rfl : y' = y := Option.some.inj (hy'.symm.trans hy)
  exact absurd hxy (not_le.mpr hyx)

theorem float_isNaN_eq_false_iff (a : Float) : a.isNaN = false ↔ ∃ x, floatRank a = some x := by
  rw [Bool.eq_false_iff, ne_eq, ← floatRank_eq_none_iff]
  exact Option.ne_none_iff_exists'

theorem float_isNaN_eq_false_of_le {a b : Float} (h : a ≤ b) :
    a.isNaN = false ∧ b.isNaN = false := by
  obtain ⟨x, y, hx, hy, -⟩ := float_le_iff_rank.mp h
  exact ⟨(float_isNaN_eq_false_iff a).mpr ⟨x, hx⟩, (float_isNaN_eq_false_iff b).mpr ⟨y, hy⟩⟩

/-- Two numbers that are not NaN compare one way or the other. -/

theorem float_le_of_not_lt {a b : Float} (ha : a.isNaN = false) (hb : b.isNaN = false)
    (h : ¬a < b) : b ≤ a := by
  obtain ⟨x, hx⟩ := (float_isNaN_eq_false_iff a).mp ha
  obtain ⟨y, hy⟩ := (float_isNaN_eq_false_iff b).mp hb
  have hyx : y ≤ x := not_lt.mp fun hxy => h (float_lt_iff_rank.mpr ⟨x, y, hx, hy, hxy⟩)
  exact float_le_iff_rank.mpr ⟨y, x, hy, hx, hyx⟩

/-! Bounds on the larger and smaller of two numbers. -/

section MinMax

variable {a b p : Float}

theorem fmin_le_of_left_le (h : a ≤ p) : fmin a b ≤ p := by
  have ha := (float_isNaN_eq_false_of_le h).1
  unfold fmin
  split_ifs with anan bnan hlt
  · simp_all
  · exact h
  · exact h
  · exact float_le_trans (float_le_of_not_lt ha (Bool.eq_false_iff.mpr bnan) hlt) h

theorem fmin_le_of_right_le (h : b ≤ p) : fmin a b ≤ p := by
  have hb := (float_isNaN_eq_false_of_le h).1
  unfold fmin
  split_ifs with anan bnan hlt
  · exact h
  · simp_all
  · exact float_le_trans (float_le_of_lt hlt) h
  · exact h

theorem le_fmin (ha : p ≤ a) (hb : p ≤ b) : p ≤ fmin a b := by
  unfold fmin
  split_ifs <;> assumption

theorem le_fmax_of_le_left (h : p ≤ a) : p ≤ fmax a b := by
  have ha := (float_isNaN_eq_false_of_le h).2
  unfold fmax
  split_ifs with anan bnan hgt
  · simp_all
  · exact h
  · exact h
  · exact float_le_trans h (float_le_of_not_lt (Bool.eq_false_iff.mpr bnan) ha hgt)

theorem le_fmax_of_le_right (h : p ≤ b) : p ≤ fmax a b := by
  have hb := (float_isNaN_eq_false_of_le h).2
  unfold fmax
  split_ifs with anan bnan hgt
  · exact h
  · simp_all
  · exact float_le_trans h (float_le_of_lt hgt)
  · exact h

theorem fmax_le (ha : a ≤ p) (hb : b ≤ p) : fmax a b ≤ p := by
  unfold fmax
  split_ifs <;> assumption

end MinMax

end CsgPreview.Arith
