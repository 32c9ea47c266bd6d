import Mathlib
import CsgPreview.Script.Scope

/-!
How large a range can get.

A range `[start : step : stop]` gives `undef` or a vector of numbers, and the vector never holds
more than `maxRangeElements` of them, whatever the three numbers: the element count is checked
after it is computed, and a count past the limit gives `undef` with a warning. The count is
taken as a 64-bit word, so the check bounds the word and not the quotient `(stop - start) / step`
itself; a quotient too large for the word wraps the count instead of exceeding the limit.
-/

namespace CsgPreview.Script

/-- What a range may give: `undef`, or a vector of at most `maxRangeElements` numbers. -/
def Value.RangeShaped (v : Value) : Prop :=
  v = .undef ∨ ∃ xs : List Float, v = .vector (xs.map .number) ∧ xs.length ≤ Scope.maxRangeElements

theorem rangeValue_bounded (start step stop : Float) (log : Array LogRecord) :
    (∃ message, ((Scope.rangeValue start step stop).run log).run =
        (.undef, log.push ⟨.warn, .scope, message⟩)) ∨
      ∃ xs : List Float, ((Scope.rangeValue start step stop).run log).run =
        (.vector (xs.map .number), log) ∧ xs.length ≤ Scope.maxRangeElements := by
  unfold Scope.rangeValue
  split
  · exact .inr ⟨[], rfl, Nat.zero_le _⟩
  · dsimp only
    generalize (((stop - start) / step).floor.toUInt64.toNat + 1) % Nat.pow 2 64 = count
    split
    · exact .inl ⟨_, rfl⟩
    · next fits =>
      refine .inr ⟨(List.range count).map fun i => start + step * i.toFloat, ?_, ?_⟩
      · rw [List.map_map]
        rfl
      · simp only [List.length_map, List.length_range]
        omega

theorem rangeValue_rangeShaped (start step stop : Float) (log : Array LogRecord) :
    (((Scope.rangeValue start step stop).run log).run.1).RangeShaped := by
  rcases rangeValue_bounded start step stop log with ⟨_, ran⟩ | ⟨xs, ran, few⟩
  · exact .inl (by rw [ran])
  · exact .inr ⟨xs, by rw [ran], few⟩

theorem evaluate_range_rangeShaped (s : Scope) (start : Expr) (step : Option Expr) (stop : Expr)
    (log : Array LogRecord) :
    (((s.evaluate (.range start step stop)).run log).run.1).RangeShaped := by
  simp only [Scope.evaluate]
  -- with or without a step expression, three numbers make a range and anything else `undef`
  cases step with
  | none =>
    simp only [StateT.run_bind, Id.run_bind, pure_bind]
    split
    · exact rangeValue_rangeShaped ..
    · exact .inl rfl
  | some e =>
    simp only [StateT.run_bind, Id.run_bind, pure_bind]
    split
    · exact rangeValue_rangeShaped ..
    · exact .inl rfl

end CsgPreview.Script
