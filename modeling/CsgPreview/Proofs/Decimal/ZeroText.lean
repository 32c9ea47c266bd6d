import Mathlib
import CsgPreview.Decimal.Plain

/-!
Only positive zero prints as `0`.

The shortest digits of a positive value are never zero. A grid point below the value that lies in
the rounding interval is not zero, since the interval stays above zero; the one above is not
zero anyway. The grid the search falls back to sits at scale zero only for values of at least 64.
-/

namespace CsgPreview.Decimal

theorem toString_eq_zero {n : Nat} (h : toString n = "0") : n = 0 := by
  have short : n < 10 := by
    have length := congrArg String.length h
    rw [Nat.toString_eq_repr] at length
    exact (Nat.length_repr_le_iff Nat.one_pos).1 (by rw [length]; decide)
  rw [Nat.toString_eq_repr, Nat.repr_of_lt short] at h
  have digit : Nat.digitChar n = '0' := by
    have chars := congrArg String.toList h
    rw [String.toList_singleton] at chars
    simpa using chars
  interval_cases n <;> simp_all [Nat.digitChar]

theorem Digits.positional_eq_zero {d : Digits} (h : d.positional = "0") :
    d.digits = 0 ∧ d.scale = 0 := by
  have nonempty : 0 < d.text.length := Nat.length_repr_pos
  have one : "0".length = 1 := rfl
  have two : "0.".length = 2 := rfl
  have chars : d.text.toList.length = d.text.length := String.length_toList
  unfold Digits.positional Digits.pointPosition at h
  dsimp only at h
  split at h
  · have length := congrArg String.length h
    simp at length
    omega
  · split at h
    · have length := congrArg String.length h
      simp at length
      omega
    · -- the digits followed by no zeros: the digit `0` at scale zero
      have length := congrArg String.length h
      simp at length
      have none : (d.scale + d.text.length).toNat - d.text.length = 0 := by omega
      rw [none, List.replicate_zero, String.ofList_nil, String.append_empty] at h
      exact ⟨toString_eq_zero h, by simp [h] at length ⊢; omega⟩

namespace BinaryValue.Frame

theorem quotient_pos {f : Frame} {t : Int} (above : f.below < f.center)
    (lowIn : within f.closed (f.grid t).remainder (f.grid t).down = true) :
    0 < (f.grid t).quotient := by
  have lift : 0 < Nat.pow 10 (-t).toNat := Nat.pow_pos (by decide)
  have wide : f.below * Nat.pow 10 (-t).toNat < f.center * Nat.pow 10 (-t).toNat :=
    Nat.mul_lt_mul_of_pos_right above lift
  have split := Nat.div_add_mod (f.center * Nat.pow 10 (-t).toNat)
    (f.denominator * Nat.pow 10 t.toNat)
  have inside : (f.grid t).remainder ≤ (f.grid t).down := by
    unfold within at lowIn
    split at lowIn <;> simp at lowIn <;> omega
  simp only [grid] at inside ⊢
  rcases Nat.eq_zero_or_pos ((f.center * Nat.pow 10 (-t).toNat) /
    (f.denominator * Nat.pow 10 t.toNat)) with zero | pos
  · rw [zero, Nat.mul_zero, Nat.zero_add] at split
    omega
  · exact pos

theorem pick?_digits_pos {f : Frame} {t : Int} {d : Digits} (above : f.below < f.center)
    (picked : f.pick? t = some d) : 0 < d.digits := by
  unfold pick? at picked
  dsimp only at picked
  split at picked
  · rename_i both
    rw [Bool.and_eq_true] at both
    split at picked <;> cases picked
    · exact quotient_pos above both.1
    · exact Nat.succ_pos _
  · split at picked
    · cases picked
      exact quotient_pos above ‹_›
    · split at picked
      · cases picked
        exact Nat.succ_pos _
      · cases picked

end BinaryValue.Frame

namespace BinaryValue

theorem frame_below_lt_center {v : BinaryValue} (pos : 0 < v.significand) :
    v.frame.below < v.frame.center := by
  have unit : 0 < Nat.pow 2 (v.exponent - 2).toNat := Nat.pow_pos (by decide)
  have unit' : 0 < Nat.pow 2 (v.exponent - 1).toNat := Nat.pow_pos (by decide)
  unfold frame
  cases v.narrowBelow <;> simp only [Bool.false_eq_true, if_true, if_false]
  · exact Nat.mul_lt_mul_of_pos_right (by omega) unit'
  · exact Nat.mul_lt_mul_of_pos_right (by omega) unit

theorem frame_denominator {v : BinaryValue} (h : 2 ≤ v.exponent) : v.frame.denominator = 1 := by
  unfold frame
  cases v.narrowBelow <;> simp only [Bool.false_eq_true, if_true, if_false] <;>
    rw [show (-_ : Int).toNat = 0 by omega]

theorem shortest_cases (v : BinaryValue) :
    (∃ t, v.frame.pick? t = some v.shortest) ∨
      v.shortest = ⟨(v.frame.grid (lowestScale (v.exponent - 2))).quotient,
        lowestScale (v.exponent - 2)⟩ := by
  unfold shortest
  dsimp only
  split
  · rename_i found
    obtain ⟨t, -, picked⟩ := List.exists_of_findSome?_eq_some found
    exact .inl ⟨t, picked⟩
  · exact .inr rfl

theorem shortest_positional_ne_zero {v : BinaryValue} (pos : 0 < v.significand) :
    v.shortest.positional ≠ "0" := by
  intro h
  obtain ⟨digits, scale⟩ := Digits.positional_eq_zero h
  have inside := frame_below_lt_center pos
  rcases shortest_cases v with ⟨t, picked⟩ | fallback
  · have := Frame.pick?_digits_pos inside picked
    omega
  · -- the fallback grid is at scale zero only for exponents 6 to 8, where the value is whole
    rw [fallback] at digits scale
    dsimp only at digits scale
    have exponent : 6 ≤ v.exponent ∧ v.exponent ≤ 8 := by
      simp only [lowestScale, Int.fdiv_eq_ediv_of_nonneg _ (by decide : (0 : Int) ≤ 100000)]
        at scale
      omega
    rw [scale] at digits
    simp only [Frame.grid, frame_denominator (by omega : 2 ≤ v.exponent)] at digits
    simp at digits
    omega

end BinaryValue

theorem BinaryFormat.unpack_finite_pos {fmt : BinaryFormat} {bits : Nat} {negative : Bool}
    {v : BinaryValue} (hu : fmt.unpack bits = .finite negative v) : 0 < v.significand := by
  rw [BinaryFormat.unpack] at hu
  split at hu
  · split at hu <;> cases hu
  · split at hu
    · split at hu
      · cases hu
      · -- a subnormal value: its fraction is not zero
        cases hu
        rename_i fraction
        exact Nat.pos_of_ne_zero (by simpa using fraction)
    · cases hu
      exact Nat.add_pos_right _ (Nat.pow_pos (by decide))

theorem BinaryFormat.unpack_double_zero {bits : Nat} (small : bits < 2 ^ 64)
    (hu : BinaryFormat.double.unpack bits = .zero false) : bits = 0 := by
  rw [BinaryFormat.unpack] at hu
  split at hu
  · split at hu <;> cases hu
  · split at hu
    · split at hu
      · rename_i exponent fraction
        injection hu with sign
        simp [BinaryFormat.double, Nat.pow_eq] at exponent fraction sign
        omega
      · cases hu
    · cases hu

theorem Unpacked.plain_finite_ne_zero (negative : Bool) {v : BinaryValue}
    (pos : 0 < v.significand) : (Unpacked.finite negative v).plain ≠ "0" := by
  unfold Unpacked.plain
  cases negative
  · simpa using BinaryValue.shortest_positional_ne_zero pos
  · exact fun signed => by simpa using congrArg String.toList signed

theorem unpack_plain_eq_zero {bits : Nat} (small : bits < 2 ^ 64)
    (h : (BinaryFormat.double.unpack bits).plain = "0") : bits = 0 := by
  cases unpacked : BinaryFormat.double.unpack bits with
  | nan => simp [unpacked, Unpacked.plain] at h
  | infinite negative => cases negative <;> simp [unpacked, Unpacked.plain] at h
  | zero negative =>
    cases negative
    · exact BinaryFormat.unpack_double_zero small unpacked
    · simp [unpacked, Unpacked.plain] at h
  | finite negative v =>
    rw [unpacked] at h
    exact absurd h (Unpacked.plain_finite_ne_zero negative
      (BinaryFormat.unpack_finite_pos unpacked))

theorem Float.eq_of_toBits_eq {x y : Float} (h : x.toBits = y.toBits) : x = y := by
  cases x with
  | ofModel x =>
    cases y with
    | ofModel y =>
      cases x
      cases y
      simp_all [Float.toBits]

theorem plainOfFloat_eq_zero {x : Float} (h : plainOfFloat x = "0") : x = 0 := by
  have bits := unpack_plain_eq_zero x.toBits.toNat_lt h
  exact Float.eq_of_toBits_eq (UInt64.toNat_inj.1 (by rw [bits]; decide +kernel))

end CsgPreview.Decimal
