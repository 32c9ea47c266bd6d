import Mathlib
import CsgPreview.Geometry.Box
import CsgPreview.Proofs.Arith.FloatOrder

/-!
The points of a box, and what the box operations do to them.

A box holds the points between its corners on every axis, comparing as doubles do. Merging
keeps the points of both boxes and intersecting keeps their common points, whatever NaNs or
inverted (empty) boxes come in; a box with a point is not empty, and two boxes with a common
point intersect. So a box test never prunes an operand that could meet the other.
-/

namespace CsgPreview.Geometry

open Arith

/-- A number between two bounds, both included. -/
def Between (lo x hi : Float) : Prop := lo ≤ x ∧ x ≤ hi

section Between

variable {lo hi lo' hi' x : Float}

theorem Between.not_lt (h : Between lo x hi) : ¬hi < lo :=
  float_not_lt_of_le (float_le_trans h.1 h.2)

theorem Between.merge_left (h : Between lo x hi) : Between (fmin lo lo') x (fmax hi hi') :=
  ⟨fmin_le_of_left_le h.1, le_fmax_of_le_left h.2⟩

theorem Between.merge_right (h : Between lo' x hi') : Between (fmin lo lo') x (fmax hi hi') :=
  ⟨fmin_le_of_right_le h.1, le_fmax_of_le_right h.2⟩

theorem Between.overlap (h : Between lo x hi) (h' : Between lo' x hi') :
    Between (fmax lo lo') x (fmin hi hi') :=
  ⟨fmax_le h.1 h'.1, le_fmin h.2 h'.2⟩

theorem Between.touches (h : Between lo x hi) (h' : Between lo' x hi') : lo ≤ hi' ∧ lo' ≤ hi :=
  ⟨float_le_trans h.1 h'.2, float_le_trans h'.1 h.2⟩

end Between

namespace Box

def points (b : Box) : Set Vec3 :=
  {p | Between b.min.x p.x b.max.x ∧ Between b.min.y p.y b.max.y ∧ Between b.min.z p.z b.max.z}

variable {a b : Box} {p : Vec3}

theorem isEmpty_eq_false_of_mem (h : p ∈ b.points) : b.isEmpty = false := by
  obtain ⟨hx, hy, hz⟩ := h
  simp [isEmpty, hx.not_lt, hy.not_lt, hz.not_lt]

theorem mem_merge_left (h : p ∈ a.points) : p ∈ (a.merge b).points := by
  unfold merge
  split_ifs with ha hb
  · simp [isEmpty_eq_false_of_mem h] at ha
  · exact h
  · obtain ⟨hx, hy, hz⟩ := h
    exact ⟨hx.merge_left, hy.merge_left, hz.merge_left⟩

theorem mem_merge_right (h : p ∈ b.points) : p ∈ (a.merge b).points := by
  unfold merge
  split_ifs with ha hb
  · exact h
  · simp [isEmpty_eq_false_of_mem h] at hb
  · obtain ⟨hx, hy, hz⟩ := h
    exact ⟨hx.merge_right, hy.merge_right, hz.merge_right⟩

theorem mem_intersection (ha : p ∈ a.points) (hb : p ∈ b.points) :
    p ∈ (a.intersection b).points := by
  obtain ⟨hax, hay, haz⟩ := ha
  obtain ⟨hbx, hby, hbz⟩ := hb
  have hoverlap : p ∈ points ⟨⟨fmax a.min.x b.min.x, fmax a.min.y b.min.y, fmax a.min.z b.min.z⟩,
      ⟨fmin a.max.x b.max.x, fmin a.max.y b.max.y, fmin a.max.z b.max.z⟩⟩ :=
    ⟨hax.overlap hbx, hay.overlap hby, haz.overlap hbz⟩
  simpa [intersection, isEmpty_eq_false_of_mem hoverlap] using hoverlap

theorem intersects_of_mem (ha : p ∈ a.points) (hb : p ∈ b.points) : a.intersects b = true := by
  have hx := ha.1.touches hb.1
  have hy := ha.2.1.touches hb.2.1
  have hz := ha.2.2.touches hb.2.2
  simp [intersects, isEmpty_eq_false_of_mem ha, isEmpty_eq_false_of_mem hb, hx, hy, hz]

theorem disjoint_of_not_intersects {s t : Set Vec3} (hs : s ⊆ a.points) (ht : t ⊆ b.points)
    (h : a.intersects b = false) : Disjoint s t :=
  Set.disjoint_left.mpr fun _ hps hpt => by simp [intersects_of_mem (hs hps) (ht hpt)] at h

end Box

end CsgPreview.Geometry
