import Mathlib
import CsgPreview.Geometry.Tessellate
import CsgPreview.Geometry.Boolean
import CsgPreview.Proofs.Cache.Faithful

/-!
Meshes whose triangles only name vertices they have.

A triangle is three indices into its mesh's vertices, so a mesh is well formed when each index is
below the vertex count. Every primitive is drawn as a well-formed mesh, whatever its sizes and
its number of segments: a sphere's quads join a ring to the next one and wrap their slice around
the ring, its caps are fans over the first and last ring, and a cylinder's triangles use its two
cap centers and rim points. Appending a mesh moves its indices past the vertices before it,
moving a mesh keeps its vertices and at most turns its triangles around, and a boolean operation
hands back its operands appended or the first one it keeps; so all of them keep meshes well
formed. The first operand kept is the first non-empty one, so an intersection always has an
operand to start from.

All indices of a sphere stay below `2 ^ 63`. Its ring count is worked out in 32-bit words: at the
largest segment count the sum `segments + 1` wraps to zero, and the sphere gets a single ring
where half the segments would give 2147483648 rings.
-/

namespace CsgPreview.Geometry

/-- Each corner of the triangle is below `n`. -/
def Triangle.Within (n : Nat) (t : Triangle) : Prop := t.a < n ∧ t.b < n ∧ t.c < n

instance (n : Nat) : DecidablePred (Triangle.Within n) := fun t =>
  inferInstanceAs (Decidable (t.a < n ∧ t.b < n ∧ t.c < n))

/-- Every triangle names vertices the mesh has. -/
def Mesh.WellFormed (m : Mesh) : Prop := ∀ t ∈ m.triangles, t.Within m.vertices.size

instance : DecidablePred Mesh.WellFormed := fun m =>
  inferInstanceAs (Decidable (∀ t ∈ m.triangles, t.Within m.vertices.size))

namespace Triangle

variable {n : Nat} {t : Triangle}

@[simp] theorem within_mk {a b c : Nat} : (⟨a, b, c⟩ : Triangle).Within n ↔ a < n ∧ b < n ∧ c < n :=
  Iff.rfl

theorem Within.mono (h : t.Within n) {n' : Nat} (hn : n ≤ n') : t.Within n' := by
  obtain ⟨ha, hb, hc⟩ := h
  exact ⟨by omega, by omega, by omega⟩

theorem Within.shift (h : t.Within n) (k : Nat) :
    (⟨t.a + k, t.b + k, t.c + k⟩ : Triangle).Within (k + n) := by
  obtain ⟨ha, hb, hc⟩ := h
  simp only [within_mk]
  omega

end Triangle

namespace Mesh

variable {m o : Mesh}

theorem wellFormed_empty : ({} : Mesh).WellFormed := by
  intro t ht
  simp at ht

theorem WellFormed.append (hm : m.WellFormed) (ho : o.WellFormed) : (m.append o).WellFormed := by
  intro t ht
  simp only [Mesh.append, Array.size_append, Array.mem_append, Array.mem_map] at ht ⊢
  rcases ht with ht | ⟨s, hs, rfl⟩
  · exact (hm t ht).mono (Nat.le_add_right _ _)
  · exact (ho s hs).shift _

theorem WellFormed.transformed (hm : m.WellFormed) (matrix : Mat4) :
    (m.transformed matrix).WellFormed := by
  intro t ht
  simp only [Mesh.transformed, Array.size_map] at ht ⊢
  split at ht
  · -- a mirroring transform turns each triangle around
    obtain ⟨s, hs, rfl⟩ := Array.mem_map.mp ht
    obtain ⟨ha, hb, hc⟩ := hm s hs
    exact ⟨ha, hc, hb⟩
  · exact hm t ht

theorem WellFormed.addFace (hm : m.WellFormed) (corners : Array Vertex) (h : 4 ≤ corners.size) :
    (⟨m.vertices ++ corners, m.triangles ++
      #[⟨m.vertices.size, m.vertices.size + 1, m.vertices.size + 2⟩,
        ⟨m.vertices.size, m.vertices.size + 2, m.vertices.size + 3⟩]⟩ : Mesh).WellFormed := by
  intro t ht
  simp only [Array.size_append, Array.mem_append] at ht ⊢
  rcases ht with ht | ht
  · exact (hm t ht).mono (Nat.le_add_right _ _)
  · simp only [List.mem_toArray, List.mem_cons, List.not_mem_nil, or_false] at ht
    rcases ht with rfl | rfl <;> simp only [Triangle.within_mk] <;> omega

theorem WellFormed.recomputeNormals (hm : m.WellFormed) : m.recomputeNormals.WellFormed := by
  intro t ht
  simpa [Mesh.recomputeNormals] using hm t ht

end Mesh

/-! ### Tessellation -/

@[simp] theorem circlePoints_size (r : Float) (segments : Nat) :
    (circlePoints r segments).size = segments := by
  simp [circlePoints]

theorem cubeMesh_wellFormed (size : Vec3) (center : Bool) : (cubeMesh size center).WellFormed := by
  unfold cubeMesh
  split
  · exact Mesh.wellFormed_empty
  have hfaces : ∀ f ∈ cubeFaces, f.1.length = 4 := by simp [cubeFaces]
  generalize cubeFaces = faces at hfaces ⊢
  generalize hm : ({} : Mesh) = m
  have hwf : m.WellFormed := hm ▸ Mesh.wellFormed_empty
  clear hm
  -- each face appends its four corners and two triangles over them
  induction faces generalizing m with
  | nil => exact hwf
  | cons face faces ih =>
    rw [List.foldl_cons]
    refine ih (fun f hf => hfaces f (List.mem_cons_of_mem _ hf)) _ ?_
    obtain ⟨quad, normal⟩ := face
    have hquad : quad.length = 4 := hfaces _ List.mem_cons_self
    exact hwf.addFace _ (by simp [hquad])

theorem sphere_index_lt {rings slices ring : Nat} (slice : Nat) (hr : ring < rings)
    (hs : 0 < slices) : ring * slices + slice % slices < rings * slices := by
  have hmod : slice % slices < slices := Nat.mod_lt _ hs
  have hring : (ring + 1) * slices ≤ rings * slices := Nat.mul_le_mul_right _ hr
  rw [Nat.succ_mul] at hring
  omega

theorem sphereMesh_vertices_size {r : Float} (hr : ¬r ≤ 0) (segments : UInt32) :
    (sphereMesh r segments).vertices.size = sphereRings segments * segments.toNat := by
  simp [sphereMesh, hr, Array.size_flatMap, ← Array.sum_toList, List.sum_replicate]

theorem sphereMesh_wellFormed (r : Float) (segments : UInt32) :
    (sphereMesh r segments).WellFormed := by
  by_cases hr : r ≤ 0
  · simpa [sphereMesh, hr] using Mesh.wellFormed_empty
  intro t ht
  rw [sphereMesh_vertices_size hr]
  simp only [sphereMesh, hr, ↓reduceIte, Array.mem_append, Array.mem_flatMap, List.mem_toArray,
    List.mem_range, List.mem_cons, List.not_mem_nil, or_false] at ht
  have hrings : 1 ≤ sphereRings segments := le_max_right _ _
  generalize sphereRings segments = rings at ht hrings ⊢
  generalize segments.toNat = slices at ht ⊢
  rcases ht with ⟨ring, hring, slice, hslice, rfl | rfl⟩ | ⟨slice, hcap, rfl | rfl⟩
  · refine ⟨?_, ?_, ?_⟩ <;> apply sphere_index_lt <;> omega
  · refine ⟨?_, ?_, ?_⟩ <;> apply sphere_index_lt <;> omega
  all_goals
    have hslice : slice < slices - 1 := List.mem_range.mp (List.mem_of_mem_drop hcap)
    refine ⟨?_, ?_, ?_⟩ <;> apply sphere_index_lt <;> omega

theorem sphereRings_le (segments : UInt32) : sphereRings segments ≤ 2147483648 := by
  have h := UInt32.toNat_lt (segments + 1)
  simp only [sphereRings, UInt32.toNat_div, UInt32.reduceToNat]
  omega

theorem sphereRings_of_lt {segments : UInt32} (h : segments.toNat < 4294967295) :
    sphereRings segments = max ((segments.toNat + 1) / 2) 1 := by
  simp only [sphereRings, UInt32.toNat_div, UInt32.toNat_add, UInt32.reduceToNat]
  rw [Nat.mod_eq_of_lt (by omega)]

theorem sphereMesh_single_ring_at_max :
    sphereRings 4294967295 = 1 ∧ (sphereMesh 1 4294967295).vertices.size = 4294967295 := by
  refine ⟨by decide, ?_⟩
  rw [sphereMesh_vertices_size (by decide)]
  decide

theorem sphereMesh_indices_lt (r : Float) (segments : UInt32) :
    ∀ t ∈ (sphereMesh r segments).triangles, t.Within (2 ^ 63) := by
  intro t ht
  refine (sphereMesh_wellFormed r segments t ht).mono ?_
  by_cases hr : r ≤ 0
  · simp [sphereMesh, hr]
  rw [sphereMesh_vertices_size hr]
  calc sphereRings segments * segments.toNat
      ≤ 2147483648 * 4294967295 :=
        Nat.mul_le_mul (sphereRings_le segments) (by have := UInt32.toNat_lt segments; omega)
    _ ≤ 2 ^ 63 := by norm_num

theorem cylinderMesh_wellFormed (h r1 r2 : Float) (center : Bool) (segments : UInt32) :
    (cylinderMesh h r1 r2 center segments).WellFormed := by
  unfold cylinderMesh
  split
  · exact Mesh.wellFormed_empty
  apply Mesh.WellFormed.recomputeNormals
  intro t ht
  simp at ht ⊢
  generalize segments.toNat = n at ht ⊢
  obtain ⟨i, hi, ht⟩ := ht
  have hnext : (i + 1) % n < n := Nat.mod_lt _ (by omega)
  rcases ht with ⟨-, rfl⟩ | ⟨-, rfl⟩ | ⟨-, rfl⟩ | ⟨-, rfl⟩ <;> simp only [Triangle.within_mk] <;> omega

theorem Primitive.toMesh_wellFormed (p : Primitive) : p.toMesh.WellFormed := by
  cases p with
  | cube size center => exact cubeMesh_wellFormed size center
  | sphere r segments => exact sphereMesh_wellFormed r segments
  | cylinder h r1 r2 center segments => exact cylinderMesh_wellFormed h r1 r2 center segments
  | square => exact Mesh.wellFormed_empty
  | circle => exact Mesh.wellFormed_empty

/-! ### Computed geometry -/

/-- The triangles of a mesh or of a solid name vertices they have; an outline has no triangles. -/
def Shape.WellFormed : Shape → Prop
  | .mesh m => m.WellFormed
  | .solid s => s.polyhedron.WellFormed
  | .outline _ => True

theorem Shape.WellFormed.transformed {g : Shape} (hg : g.WellFormed) (matrix : Mat4) :
    (g.transformed matrix).WellFormed := by
  cases g with
  | mesh m => exact Mesh.WellFormed.transformed hg matrix
  | outline o => trivial
  | solid s => exact Mesh.WellFormed.transformed hg matrix

theorem concatenate_wellFormed {operands : List Shape} (h : ∀ g ∈ operands, g.WellFormed)
    (dimension : Nat) : (concatenate operands dimension).WellFormed := by
  unfold concatenate
  split
  · trivial
  generalize hacc : (({}, 0, false) : Mesh × Nat × Bool) = acc
  have hwf : acc.1.WellFormed := hacc ▸ Mesh.wellFormed_empty
  clear hacc
  -- the running mesh stays well formed as each operand's triangles are appended to it
  induction operands generalizing acc with
  | nil =>
    obtain ⟨mesh, volumes, exact⟩ := acc
    cases exact <;> exact hwf
  | cons g rest ih =>
    rw [List.foldl_cons]
    refine ih (fun g' hg' => h g' (List.mem_cons_of_mem _ hg')) _ ?_
    have hg : g.WellFormed := h g List.mem_cons_self
    obtain ⟨mesh, volumes, exact⟩ := acc
    cases g with
    | solid s => exact Mesh.WellFormed.append hwf hg
    | mesh m => exact Mesh.WellFormed.append hwf hg
    | outline o => exact hwf

namespace applyBoolean

variable {op : BooleanOp} {dimension : Nat}

theorem keep_eq_some {operands kept result : List Shape} {dropped dropped' : Nat}
    (h : keep op dimension operands kept dropped = some (result, dropped')) :
    ∃ more, result = kept.reverse ++ more ∧ ∀ g ∈ more, g ∈ operands := by
  induction operands generalizing kept dropped with
  | nil =>
    simp only [keep, Option.some.injEq, Prod.mk.injEq] at h
    exact ⟨[], by simp [h.1], by simp⟩
  | cons g rest ih =>
    simp only [keep] at h
    split at h
    · split at h
      · cases h
      · obtain ⟨more, hres, hmem⟩ := ih h
        exact ⟨more, hres, fun x hx => List.mem_cons_of_mem _ (hmem x hx)⟩
    · split at h
      · obtain ⟨more, hres, hmem⟩ := ih h
        exact ⟨more, hres, fun x hx => List.mem_cons_of_mem _ (hmem x hx)⟩
      · -- `g` is kept: it comes right after what was kept before
        obtain ⟨more, hres, hmem⟩ := ih h
        refine ⟨g :: more, by simp [hres], ?_⟩
        intro x hx
        rcases List.mem_cons.mp hx with rfl | hx
        · exact List.mem_cons_self
        · exact List.mem_cons_of_mem _ (hmem x hx)

theorem keep_head?_eq_first {operands result : List Shape} {first : Shape}
    {dropped dropped' : Nat} (hfirst : operands.find? (!·.isEmpty) = some first)
    (h : keep op first.dimension operands [] dropped = some (result, dropped')) :
    result.head? = some first := by
  induction operands generalizing dropped with
  | nil => cases hfirst
  | cons g rest ih =>
    rw [List.find?_cons] at hfirst
    simp only [keep] at h
    cases hg : g.isEmpty with
    | false =>
      simp only [hg, Bool.not_false, Option.some.injEq] at hfirst
      subst hfirst
      simp only [hg, Bool.false_eq_true, ↓reduceIte, bne_self_eq_false] at h
      obtain ⟨more, rfl, -⟩ := keep_eq_some h
      rfl
    | true =>
      simp only [hg, Bool.not_true] at hfirst
      simp only [hg, ↓reduceIte] at h
      split at h
      · cases h
      · exact ih hfirst h

end applyBoolean

theorem applyBoolean_wellFormed {op : BooleanOp} {operands : List Shape}
    (h : ∀ g ∈ operands, g.WellFormed) (log : Array LogRecord) :
    ∀ g ∈ ((applyBoolean op operands).run log).run.1, g.WellFormed := by
  intro g hg
  unfold applyBoolean at hg
  split at hg
  · simp at hg
  rename_i first hfirst
  cases hk : applyBoolean.keep op first.dimension operands [] 0 with
  | none => simp [hk] at hg
  | some r =>
    obtain ⟨kept, dropped⟩ := r
    obtain ⟨more, hres, hmore⟩ := applyBoolean.keep_eq_some hk
    simp only [List.reverse_nil, List.nil_append] at hres
    have hkept : ∀ x ∈ kept, x.WellFormed := fun x hx => h x (hmore x (hres ▸ hx))
    -- the first kept operand is the first non-empty one, so no operation starts from nothing
    obtain ⟨rest, rfl⟩ : ∃ rest, kept = first :: rest :=
      List.head?_eq_some_iff.mp (applyBoolean.keep_head?_eq_first hfirst hk)
    have hfirst_wf : first.WellFormed := hkept first List.mem_cons_self
    simp only [hk] at hg
    -- the warning about operands of the other dimension only adds to the log
    cases op with
    | union =>
      split at hg <;> simp [report] at hg <;> (subst hg; exact concatenate_wellFormed hkept _)
    | difference => split at hg <;> simp [report] at hg <;> (subst hg; exact hfirst_wf)
    | intersection =>
      split at hg <;> simp [report] at hg <;> (obtain ⟨-, rfl⟩ := hg; exact hfirst_wf)

end CsgPreview.Geometry

namespace CsgPreview.Cache.Tessellations

open CsgPreview.Geometry

variable {t : Tessellations}

theorem preview_wellFormed (h : t.Faithful) (p : Primitive) : (t.preview p).2.WellFormed := by
  unfold Tessellations.preview
  split
  · trivial
  · obtain ⟨q, -, hq⟩ := mesh_described h p
    show (t.mesh p).2.WellFormed
    exact hq ▸ q.toMesh_wellFormed

theorem exact_wellFormed (h : t.Faithful) (p : Primitive) : (t.exact p).2.WellFormed := by
  unfold Tessellations.exact
  split
  · trivial
  · obtain ⟨q, -, hq⟩ := mesh_described h p
    show (t.mesh p).2.WellFormed
    exact hq ▸ q.toMesh_wellFormed

end CsgPreview.Cache.Tessellations
