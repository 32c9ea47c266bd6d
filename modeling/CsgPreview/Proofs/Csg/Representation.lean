import Mathlib
import CsgPreview.Proofs.Csg.Budget
import CsgPreview.Proofs.Csg.Flatten

/-!
What terms and render chains cache, and why it can be trusted.

A term stores its leaf count and its box when it is built, and nothing recomputes them. Every
operation node the constructors build is the node `opNode` makes of its operands, whatever
pruning, flags and rebuilding did on the way (`Built.opNodeBuilt`). So its leaf count is the number
of its leaves, and once each leaf's points lie in the box the term keeps for it, every box holds
the points of the subterm there. Normalization only builds: its rules combine operands two levels
down the node they rewrite, and a pass rebuilds a node over what it made of the node's operands,
so every term a pass visits or gives back is built, and so is the term normalization ends with.

A chain's box is each product's first box clipped by the boxes of its intersections, all merged.
However a chain was put together, splitting it leaves only differences and intersections after
each product's first entry, so a product's points stay in its clipped box, and merging keeps
them. Boxes compare as doubles do (`Box.points`).
-/

namespace CsgPreview.Csg

open CsgPreview.Geometry

variable {S : Leaf → Set Vec3}

/-! ### Built terms -/

theorem Term.combineFlagged_eq_some {o : BooleanOp} {l r : Option Term} {f : Flags} {t : Term}
    (h : Term.combineFlagged o l r f = some t) :
    l = some t ∨ r = some t ∨
      ∃ left right, l = some left ∧ r = some right ∧ t = Term.opNode o left right f := by
  cases l with
  | none =>
    -- with no left operand, only a union gives anything back: its right operand
    cases o <;> cases r <;> simp [Term.combineFlagged] at h
    simp [h]
  | some left =>
    cases r with
    | none => cases o <;> simp [Term.combineFlagged] at h <;> subst h <;> simp
    | some right =>
      cases o <;> by_cases hit : left.box.intersects right.box <;>
        simp [Term.combineFlagged, hit] at h <;> subst h <;> simp

theorem Term.withFlags_eq_op {t : Term} {g : Flags} {o : BooleanOp} {l r : Term} {b : Box}
    {n : Nat} {f : Flags} (h : t.withFlags g = .op o l r b n f) : ∃ f', t = .op o l r b n f' := by
  cases t with
  | leaf => simp [withFlags] at h
  | op =>
    simp only [withFlags, Term.op.injEq] at h
    obtain ⟨rfl, rfl, rfl, rfl, rfl, -⟩ := h
    exact ⟨_, rfl⟩

theorem rebuild_fst_cases (node : Term) (l r : Option Term) (changed : Bool) :
    (rebuild node l r changed).1 = some node ∨
      ∃ o, (rebuild node l r changed).1 = Term.combineFlagged o l r node.flags := by
  unfold rebuild
  split
  · split
    · split
      · exact .inr ⟨_, rfl⟩
      · exact .inl rfl
    · exact .inr ⟨_, rfl⟩
  · exact .inl rfl

/-- When the term is an operation node, it is the node `opNode` makes of its operands, with its
own flags, and its operands are built. -/
def OpNodeBuilt (t : Option Term) : Prop :=
  ∀ {o l r b n f}, t = some (.op o l r b n f) →
    Built (some l) ∧ Built (some r) ∧ Term.op o l r b n f = Term.opNode o l r f

theorem OpNodeBuilt.combineFlagged {l r : Option Term} (hl : Built l) (hr : Built r)
    (hl' : OpNodeBuilt l) (hr' : OpNodeBuilt r) (o : BooleanOp) (f : Flags) :
    OpNodeBuilt (Term.combineFlagged o l r f) := by
  intro o' l' r' b n f' h
  rcases Term.combineFlagged_eq_some h with rfl | rfl | ⟨left, right, rfl, rfl, hnode⟩
  · exact hl' rfl
  · exact hr' rfl
  · have hparts := hnode
    simp only [Term.opNode, Term.op.injEq] at hparts
    obtain ⟨rfl, rfl, rfl, -, -, rfl⟩ := hparts
    exact ⟨hl, hr, hnode⟩

theorem Built.opNodeBuilt {t : Option Term} (h : Built t) : OpNodeBuilt t := by
  induction h with
  | leaf leaf =>
    intro o l r b n f h
    unfold Term.ofLeaf at h
    split at h <;> simp at h
  | combine o f hl hr ihl ihr => exact OpNodeBuilt.combineFlagged hl hr ihl ihr o f
  | withFlags g _ ih =>
    intro o l r b n f h
    obtain ⟨f', rfl⟩ := Term.withFlags_eq_op (Option.some.inj h)
    obtain ⟨hl, hr, hnode⟩ := ih rfl
    exact ⟨hl, hr, by simpa [Term.opNode] using hnode⟩
  | rebuild changed _ hl hr ihnode ihl ihr =>
    intro o l r b n f h
    rcases rebuild_fst_cases _ _ _ changed with same | ⟨o', combined⟩
    · exact ihnode (same.symm.trans h)
    · exact OpNodeBuilt.combineFlagged hl hr ihl ihr o' _ (combined.symm.trans h)

theorem Built.eq_opNode {o : BooleanOp} {l r : Term} {b : Box} {n : Nat} {f : Flags}
    (h : Built (some (.op o l r b n f))) :
    Built (some l) ∧ Built (some r) ∧ Term.op o l r b n f = Term.opNode o l r f :=
  h.opNodeBuilt rfl

theorem Built.operands {o : BooleanOp} {l r : Term} {b : Box} {n : Nat} {f : Flags}
    (h : Built (some (.op o l r b n f))) : Built (some l) ∧ Built (some r) :=
  ⟨h.eq_opNode.1, h.eq_opNode.2.1⟩

/-! ### What a built term caches -/

/-- Each leaf's points lie in the box the term keeps for that leaf. -/
def Term.LeafPointsInBoxes (S : Leaf → Set Vec3) (t : Term) : Prop :=
  ∀ lb ∈ t.leafOccurrences, S lb.1 ⊆ lb.2.points

theorem Built.leafCount_eq_length {t : Term} (h : Built (some t)) :
    t.leafCount = t.leafOccurrences.length := by
  induction t with
  | leaf => rfl
  | op o l r b n f ihl ihr =>
    obtain ⟨hl, hr, hnode⟩ := h.eq_opNode
    have hn : n = l.leafCount + r.leafCount := congrArg Term.leafCount hnode
    simp [Term.leafOccurrences, hn, ihl hl, ihr hr]

theorem Built.covered {t : Term} (h : Built (some t)) (hleaves : t.LeafPointsInBoxes S) :
    t.Covered S := by
  induction t with
  | leaf l b f => exact hleaves (l, b) List.mem_cons_self
  | op o l r b n f ihl ihr =>
    obtain ⟨hl, hr, hnode⟩ := h.eq_opNode
    have hleft : l.LeafPointsInBoxes S := fun lb hlb => hleaves lb (List.mem_append_left _ hlb)
    have hright : r.LeafPointsInBoxes S := fun lb hlb => hleaves lb (List.mem_append_right _ hlb)
    rw [hnode]
    exact Term.Covered.opNode (ihl hl hleft) (ihr hr hright) o f

/-! ### Normalization builds -/

theorem Rule.built {node : Term} {r : Option Term} (h : Rule node r) (hnode : Built (some node)) :
    Built r := by
  -- each rule combines the operands found two levels down the node
  cases h
  case differenceUnion | intersectionUnion | differenceIntersection | intersectionIntersection
      | differenceDifference | intersectionDifference =>
    obtain ⟨hx, hyz⟩ := hnode.operands
    obtain ⟨hy, hz⟩ := hyz.operands
    repeat' apply Built.combine
    all_goals assumption
  case leftDifferenceIntersection | leftUnionDifference | leftUnionIntersection =>
    obtain ⟨hxy, hz⟩ := hnode.operands
    obtain ⟨hx, hy⟩ := hxy.operands
    repeat' apply Built.combine
    all_goals assumption

theorem built_passRelation :
    PassRelation fun node result => Built (some node) → Built result where
  refl _ h := h
  trans hab hbc h := hbc (hab h)
  rewrite found h := (Rule.of_rewrite found).built h
  left _ hl h := .rebuild _ h (hl (h.operands).1) (h.operands).2
  right _ hr h := .rebuild _ h (h.operands).1 (hr (h.operands).2)

theorem RewriteVisit.built {st st' : PassState} {node node' : Term}
    (visit : RewriteVisit st node st' node') (h : Built (some node)) : Built (some node') := by
  induction visit with
  | here => exact h
  | next found _ _ ih => exact ih ((Rule.of_rewrite found).built h)

theorem PassVisit.built {ctx ctx' : Nat} {st st' : PassState} {node node' : Term}
    (visit : PassVisit ctx st node ctx' st' node') : Built (some node) → Built (some node') := by
  induction visit with
  | rewrite _ _ loop => exact loop.built
  | left _ _ found _ _ ih => exact fun h => ih (built_passRelation.current found h |>.operands).1
  | again _ _ found _ _ rebuilt _ _ ih =>
    intro h
    have hcurrent := built_passRelation.current found h
    exact ih (built_passRelation.overLeft_of_eq (built_passRelation.runPass _ _) rebuilt hcurrent)
  | right _ _ found _ _ rebuilt _ _ ih =>
    intro h
    have hcurrent := built_passRelation.current found h
    have hrebuilt :=
      built_passRelation.overLeft_of_eq (built_passRelation.runPass _ _) rebuilt hcurrent
    exact ih (hrebuilt.operands).2

theorem PassesOver.built {budget : Nat} {t u : Term} (passes : PassesOver budget t u)
    (ht : Built (some t)) : Built (some u) := by
  induction passes with
  | start => exact ht
  | next _ _ found _ ih =>
    rw [← found]
    exact built_passRelation.runPass _ _ ih

/-! ### Render chains -/

/-- Each entry's points lie in the entry's box. -/
def RenderChain.EntryPointsInBoxes (S : Leaf → Set Vec3) (c : RenderChain) : Prop :=
  ∀ e ∈ c.entries, S e.leaf ⊆ e.box.points

theorem RenderChain.EntryPointsInBoxes.append {c : RenderChain} (hc : c.EntryPointsInBoxes S)
    {t : Term} (ht : t.LeafPointsInBoxes S) (op : BooleanOp) (flags : Flags) :
    (c.append t op flags).EntryPointsInBoxes S := by
  intro e he
  rw [Array.mem_def, append_entries, List.mem_append] at he
  rcases he with hold | hnew
  · exact hc e (Array.mem_def.mpr hold)
  · have hsource : e.source ∈ t.leafOccurrences := by
      rw [← t.chainEntries_source op flags]
      exact List.mem_map_of_mem hnew
    exact ht e.source hsource

/-- A product as a split leaves it: a first entry, then entries that only subtract or
intersect. -/
def IsProduct : List ChainEntry → Prop
  | [] => False
  | _ :: rest => ∀ e ∈ rest, e.op ≠ .union

theorem productStep_eq (done : List (List ChainEntry)) (current : List ChainEntry)
    (e : ChainEntry) :
    productStep (done, current) e =
      if e.op = .union ∧ current ≠ [] then (current.reverse :: done, [e])
      else (done, e :: current) := by
  cases current <;> by_cases he : e.op = .union <;> simp [productStep, he]

theorem flatten_finishProducts_foldl (entries : List ChainEntry) (done : List (List ChainEntry))
    (current : List ChainEntry) :
    (finishProducts (entries.foldl productStep (done, current))).flatten =
      done.reverse.flatten ++ current.reverse ++ entries := by
  induction entries generalizing done current with
  | nil => cases current <;> simp [finishProducts]
  | cons e rest ih =>
    rw [List.foldl_cons, productStep_eq]
    split_ifs with hcut
    all_goals simp [ih]

theorem RenderChain.flatten_products (c : RenderChain) :
    c.products.flatten = c.entries.toList := by
  rw [products_eq, flatten_finishProducts_foldl]
  simp

theorem RenderChain.mem_entries_of_mem_products {c : RenderChain} {run : List ChainEntry}
    (hrun : run ∈ c.products) {e : ChainEntry} (he : e ∈ run) : e ∈ c.entries := by
  rw [Array.mem_def, ← c.flatten_products]
  exact List.mem_flatten_of_mem hrun he

/-- What splitting keeps as it goes: the runs it closed are products, and the open run, newest
entry first, has only differences and intersections after its oldest entry. -/
def SplitInvariant (acc : List (List ChainEntry) × List ChainEntry) : Prop :=
  (∀ run ∈ acc.1, IsProduct run) ∧ ∀ e ∈ acc.2.dropLast, e.op ≠ .union

theorem isProduct_reverse {current : List ChainEntry} (hne : current ≠ [])
    (h : ∀ e ∈ current.dropLast, e.op ≠ .union) : IsProduct current.reverse := by
  obtain ⟨init, last, rfl⟩ := List.eq_nil_or_concat current |>.resolve_left hne
  simpa [IsProduct] using h

theorem SplitInvariant.productStep {acc : List (List ChainEntry) × List ChainEntry}
    (h : SplitInvariant acc) (e : ChainEntry) : SplitInvariant (productStep acc e) := by
  obtain ⟨done, current⟩ := acc
  obtain ⟨hdone, hcurrent⟩ := h
  rw [productStep_eq]
  split_ifs with hcut
  · -- a union entry closes the open run and opens a new one
    refine ⟨fun run hrun => ?_, by simp⟩
    rcases List.mem_cons.mp hrun with rfl | hold
    · exact isProduct_reverse hcut.2 hcurrent
    · exact hdone run hold
  · refine ⟨hdone, fun x hx => ?_⟩
    cases current with
    | nil => simp at hx
    | cons c cs =>
      -- the entry extends a run that is open, so it is no union
      rw [List.dropLast_cons_of_ne_nil (List.cons_ne_nil c cs), List.mem_cons] at hx
      rcases hx with rfl | hx
      · simpa using hcut
      · exact hcurrent x hx

theorem SplitInvariant.foldl {acc : List (List ChainEntry) × List ChainEntry}
    (h : SplitInvariant acc) (entries : List ChainEntry) :
    SplitInvariant (entries.foldl Csg.productStep acc) := by
  induction entries generalizing acc with
  | nil => exact h
  | cons e rest ih => exact ih (h.productStep e)

theorem SplitInvariant.finishProducts {acc : List (List ChainEntry) × List ChainEntry}
    (h : SplitInvariant acc) : ∀ run ∈ Csg.finishProducts acc, IsProduct run := by
  obtain ⟨done, current⟩ := acc
  intro run hrun
  by_cases hempty : current = []
  · simp only [Csg.finishProducts, hempty, List.isEmpty_nil, ↓reduceIte,
      List.mem_reverse] at hrun
    exact h.1 run hrun
  · simp only [Csg.finishProducts, List.isEmpty_eq_false_iff.mpr hempty, Bool.false_eq_true,
      ↓reduceIte, List.mem_reverse, List.mem_cons] at hrun
    rcases hrun with rfl | hold
    · exact isProduct_reverse hempty h.2
    · exact h.1 run hold

theorem RenderChain.isProduct_of_mem_products (c : RenderChain) :
    ∀ run ∈ c.products, IsProduct run := by
  rw [products_eq]
  exact (SplitInvariant.foldl ⟨by simp, by simp⟩ _).finishProducts

theorem foldl_onSets_subset_clipped {rest : List ChainEntry}
    (hrest : ∀ e ∈ rest, e.op ≠ .union ∧ S e.leaf ⊆ e.box.points) {A : Set Vec3} {B : Box}
    (hA : A ⊆ B.points) :
    rest.foldl (fun acc e => e.op.onSets acc (S e.leaf)) A ⊆
      (rest.foldl (fun b e => if e.op == .intersection then b.intersection e.box else b)
        B).points := by
  induction rest generalizing A B with
  | nil => exact hA
  | cons e rest ih =>
    obtain ⟨hop, hbox⟩ := hrest e List.mem_cons_self
    refine ih (fun e' he' => hrest e' (List.mem_cons_of_mem e he')) ?_
    dsimp only
    cases hkind : e.op with
    | union => exact absurd hkind hop
    | difference =>
      simp only [BooleanOp.onSets, beq_iff_eq, reduceCtorEq, ↓reduceIte]
      exact Set.sdiff_subset.trans hA
    | intersection =>
      simp only [BooleanOp.onSets, beq_self_eq_true, ↓reduceIte]
      exact fun p hp => Box.mem_intersection (hA hp.1) (hbox hp.2)

theorem points_foldl_of_grows {P : List ChainEntry → Prop} {g : Box → List ChainEntry → Box}
    (keeps : ∀ acc run, P run → acc.points ⊆ (g acc run).points)
    (adds : ∀ acc run, P run → runSet S run ⊆ (g acc run).points) :
    ∀ (runs : List (List ChainEntry)) (acc : Box), (∀ run ∈ runs, P run) →
      acc.points ⊆ (runs.foldl g acc).points ∧
        ∀ run ∈ runs, runSet S run ⊆ (runs.foldl g acc).points := by
  intro runs
  induction runs with
  | nil => exact fun acc _ => ⟨subset_rfl, by simp⟩
  | cons run runs ih =>
    intro acc hruns
    have hrun := hruns run List.mem_cons_self
    obtain ⟨hkept, hadded⟩ := ih (g acc run) fun r hr => hruns r (List.mem_cons_of_mem run hr)
    refine ⟨(keeps acc run hrun).trans hkept, fun r hr => ?_⟩
    rcases List.mem_cons.mp hr with rfl | hlater
    · exact (adds acc r hrun).trans hkept
    · exact hadded r hlater

theorem RenderChain.runSet_subset_box {c : RenderChain} (hc : c.EntryPointsInBoxes S) :
    ⋃ run ∈ c.products, runSet S run ⊆ c.box.points := by
  have hruns : ∀ run ∈ c.products, IsProduct run ∧ ∀ e ∈ run, S e.leaf ⊆ e.box.points :=
    fun run hrun => ⟨c.isProduct_of_mem_products run hrun,
      fun e he => hc e (mem_entries_of_mem_products hrun he)⟩
  unfold RenderChain.box
  refine Set.iUnion₂_subset (points_foldl_of_grows ?keeps ?adds c.products Box.empty hruns).2
  case keeps =>
    rintro acc (_ | ⟨first, rest⟩) ⟨hproduct, -⟩
    · exact False.elim hproduct
    · exact fun p hp => Box.mem_merge_left hp
  case adds =>
    -- the product's points stay in its first box clipped by its intersections
    rintro acc (_ | ⟨first, rest⟩) ⟨hproduct, hin⟩
    · exact False.elim hproduct
    · intro p hp
      apply Box.mem_merge_right
      exact foldl_onSets_subset_clipped
        (fun e he => ⟨hproduct e he, hin e (List.mem_cons_of_mem first he)⟩)
        (hin first List.mem_cons_self) hp

/-! ### The caches as a whole -/

/-- What terms and chains cache can be trusted. Every term the constructors build counts its
leaves exactly and, once each leaf's points lie in the box it keeps for the leaf, holds its points
in its box. Those terms include every term of normalization: a pass over a built term visits only
built terms and gives back one, and normalizing a built term passes over built terms only and
ends on one. A chain's box holds the points of each of its products once each entry's points lie
in its box, as they do for the entries imported from such terms. -/
theorem cached_leafCount_and_box_sound (S : Leaf → Set Vec3) :
    (∀ t : Term, Built (some t) →
      t.leafCount = t.leafOccurrences.length ∧
        (t.LeafPointsInBoxes S → t.denote S ⊆ t.box.points)) ∧
    (∀ (st : PassState) (node : Term), Built (some node) →
      Built (runPass st node).term ∧
        ∀ ctx ctx' st' node', PassVisit ctx st node ctx' st' node' → Built (some node')) ∧
    (∀ (budget : Nat) (t : Term) (log : Array LogRecord), Built (some t) →
      (∀ u, PassesOver budget t u → Built (some u)) ∧
        ∃ n log', (normalize budget {} t).run.run log = (.ok n, log') ∧ Built n.term) ∧
    (∀ (c : RenderChain) (t : Term) (op : BooleanOp) (flags : Flags), c.EntryPointsInBoxes S →
      t.LeafPointsInBoxes S → (c.append t op flags).EntryPointsInBoxes S) ∧
    ∀ c : RenderChain, c.EntryPointsInBoxes S →
      ⋃ run ∈ c.products, runSet S run ⊆ c.box.points := by
  refine ⟨fun t ht => ⟨ht.leafCount_eq_length, fun hleaves => ?box⟩,
    fun st node hnode => ?pass, fun budget t log ht => ?normalized,
    fun c t op flags hc ht => hc.append ht op flags, fun c hc => RenderChain.runSet_subset_box hc⟩
  case box => exact Term.Covered.subset_box (ht.covered hleaves)
  case pass =>
    exact ⟨built_passRelation.runPass st node hnode, fun _ _ _ _ visit => visit.built hnode⟩
  case normalized =>
    obtain ⟨n, log', run, hn⟩ := built_passRelation.normalizePasses_uncancelled budget t 0 true log
    exact ⟨fun u passes => passes.built ht, n, log', run, hn ht⟩

end CsgPreview.Csg
