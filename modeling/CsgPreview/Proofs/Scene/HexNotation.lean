import Mathlib
import CsgPreview.Scene.Color

/-!
Which strings hexadecimal color notation accepts.

After the `#`, three or four bytes are read as single digits and six or eight as digit pairs.
Each group is read as a base-16 number that may carry a leading `+` when more follows it. A lone
`+` is no number, so the short forms take exactly three or four hexadecimal digits; a pair, though,
may be a `+` and one digit, so that `#+f+f+f` reads as the color of `#0f0f0f`. The main statement,
`ofHex?_isSome_iff`, gives the whole set of accepted strings.
-/

namespace CsgPreview.Scene.Rgba

/-! ### Digits and digit groups -/

theorem hexDigit?_isSome (b : UInt8) : (hexDigit? b).isSome = b.toChar.isHexDigit := by
  have small := b.toNat_lt
  simp only [hexDigit?, Char.isHexDigit, Char.isDigit, UInt8.toChar, UInt8.le_iff_toNat_le,
    UInt32.le_iff_toNat_le, ge_iff_le, UInt8.toNat_ofNat, UInt8.toNat_toUInt32]
  split_ifs <;> simp_all

theorem hexDigit?_lt {b : UInt8} {v : Nat} (h : hexDigit? b = some v) : v < 16 := by
  simp only [hexDigit?, UInt8.le_iff_toNat_le, UInt8.toNat_ofNat] at h
  split_ifs at h <;> simp_all <;> omega

theorem bind_fits_byte (o : Option Nat) (small : ∀ v, o = some v → v < 256) :
    (o.bind fun v => if v < 256 then some v else none) = o := by
  cases o with
  | none => rfl
  | some v => simp [small v rfl]

theorem hexDigit?_fits_byte (b : UInt8) : ∀ v, hexDigit? b = some v → v < 256 :=
  fun _ h => (hexDigit?_lt h).trans (by norm_num)

theorem hexByteValue?_singleton (b : UInt8) : hexByteValue? [b] = hexDigit? b := by
  simp only [hexByteValue?]
  simp
  exact bind_fits_byte _ (hexDigit?_fits_byte b)

theorem hexByteValue?_plus (b : UInt8) : hexByteValue? [43, b] = hexDigit? b := by
  simp only [hexByteValue?]
  simp
  exact bind_fits_byte _ (hexDigit?_fits_byte b)

theorem hexByteValue?_pair {a : UInt8} (b : UInt8) (unsigned : a ≠ 43) :
    hexByteValue? [a, b] = (hexDigit? a).bind fun x => (hexDigit? b).map (x * 16 + ·) := by
  simp only [hexByteValue?]
  simp [unsigned]
  apply bind_fits_byte
  intro v h
  simp only [Option.bind_eq_some_iff, Option.map_eq_some_iff] at h
  obtain ⟨x, hx, y, hy, rfl⟩ := h
  have high := hexDigit?_lt hx
  have low := hexDigit?_lt hy
  omega

theorem hexByteValue?_pair_isSome (a b : UInt8) :
    (hexByteValue? [a, b]).isSome = ((a == 43 || a.toChar.isHexDigit) && b.toChar.isHexDigit) := by
  by_cases plus : a = 43
  · subst plus
    simp [hexByteValue?_plus, hexDigit?_isSome]
  · have unsigned : (a == 43) = false := beq_false_of_ne plus
    cases ha : hexDigit? a <;>
      simp [hexByteValue?_pair b plus, unsigned, ha, ← hexDigit?_isSome]

private theorem any_const {α : Type} (o : Option α) (c : Bool) :
    o.any (fun _ => c) = (o.isSome && c) := by
  cases o <;> rfl

/-! ### The accepted strings -/

/-- Digit pairs as the long forms read them: each pair two hexadecimal digits, or a `+` and
one. -/
def pairDigits : List UInt8 → Bool
  | [] => true
  | [_] => false
  | a :: b :: rest => (a == 43 || a.toChar.isHexDigit) && b.toChar.isHexDigit && pairDigits rest

/-- What may follow the `#`: three or four hexadecimal digits, or three or four digit pairs. -/
def HexNotation (ds : List UInt8) : Prop :=
  (ds.length = 3 ∨ ds.length = 4) ∧ (∀ b ∈ ds, b.toChar.isHexDigit) ∨
    (ds.length = 6 ∨ ds.length = 8) ∧ pairDigits ds

instance : DecidablePred HexNotation := fun _ =>
  inferInstanceAs (Decidable (_ ∨ _))

theorem ofHex?_isSome_iff (s : String) :
    (ofHex? s).isSome ↔ ∃ ds, s.toUTF8.toList = 35 :: ds ∧ HexNotation ds := by
  unfold ofHex?
  split
  next ds bytes =>
    rw [bytes]
    simp only [List.cons.injEq, true_and, exists_eq_left']
    -- the number of bytes after `#` picks the form; beyond eight there is none
    rcases ds with _|⟨a,_|⟨b,_|⟨c,_|⟨d,_|⟨e,_|⟨f,_|⟨g,_|⟨i,_|⟨j, rest⟩⟩⟩⟩⟩⟩⟩⟩⟩
    all_goals simp [HexNotation, pairDigits, Option.isSome_bind, any_const,
      hexByteValue?_singleton, hexByteValue?_pair_isSome, hexDigit?_isSome, and_assoc]
  next noHash =>
    simp only [Option.isSome_none, Bool.false_eq_true, false_iff, not_exists, not_and]
    intro ds bytes
    exact (noHash ds bytes).elim

theorem ofHex?_reads_signed_pairs : (ofHex? "#+f+f+f").isSome :=
  (ofHex?_isSome_iff _).2 ⟨[43, 102, 43, 102, 43, 102], by decide +kernel, by decide⟩

end CsgPreview.Scene.Rgba
