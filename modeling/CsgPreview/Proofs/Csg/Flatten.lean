import Mathlib
import CsgPreview.Csg.Chain
import CsgPreview.Proofs.Csg.Denote
import CsgPreview.Proofs.Csg.NormalForm

/-!
Flattening a term in sum-of-products form into a render chain.

A term is in sum-of-products form when unions only sit above products, and a product is a
left-deep chain of differences and intersections whose right operands are leaves; the normal
form is one. Its chain then lists one entry per leaf, left to right; the entries of each product
are contiguous, the first marked union and each later one marked with the operation of the node
whose right operand it is; so splitting the chain at its union entries gives back the products,
and folding each run left to right and uniting the runs gives back the set the term stands for.
-/

namespace CsgPreview.Csg

open CsgPreview.Geometry

def Term.productNode : Term → Bool
  | .op .union .. => true
  | .op _ l r .. => r.isLeaf && l.opKind? != some .union
  | .leaf .. => true

def Term.isSumOfProducts (t : Term) : Bool := t.subterms.all Term.productNode

def Term.products : Term → List Term
  | .op .union l r .. => l.products ++ r.products
  | t => [t]

def Term.leafOccurrences : Term → List (Leaf × Box)
  | .leaf l b _ => [(l, b)]
  | .op _ l r .. => l.leafOccurrences ++ r.leafOccurrences

/-- The operations down the left spine of a product, innermost first: in a product, the
operation of the node each leaf after the first is the right operand of. -/
def Term.chainOps : Term → List BooleanOp
  | .leaf .. => []
  | .op o l _ .. => l.chainOps ++ [o]

def ChainEntry.leaf (e : ChainEntry) : Leaf := ⟨e.geometry, e.matrix, e.color, e.label, e.index⟩

def ChainEntry.source (e : ChainEntry) : Leaf × Box := (e.leaf, e.box)

/-- The points a run of entries covers: the first entry's set, then each later entry combined
with it by the entry's operation. -/
def runSet (S : Leaf → Set Vec3) : List ChainEntry → Set Vec3
  | [] => ∅
  | e :: rest => rest.foldl (fun acc e' => e'.op.onSets acc (S e'.leaf)) (S e.leaf)

def Term.chainEntries (t : Term) (op : BooleanOp) (flags : Flags) : List ChainEntry :=
  (({} : RenderChain).append t op flags).entries.toList

theorem RenderChain.append_entries (c : RenderChain) (t : Term) (op : BooleanOp)
    (flags : Flags) :
    (c.append t op flags).entries.toList = c.entries.toList ++ t.chainEntries op flags := by
  induction t generalizing c op flags with
  | leaf l b f => simp [append, Term.chainEntries]
  | op o l r b n f ihl ihr =>
    simp only [append, Term.chainEntries]
    rw [ihr, ihl, ihr, ihl]
    simp

@[simp] theorem Term.chainEntries_leaf (l : Leaf) (b : Box) (f : Flags) (op : BooleanOp)
    (flags : Flags) :
    (Term.leaf l b f).chainEntries op flags =
      [⟨l.geometry, l.matrix, l.color, .ofFlags (flags.union f), op, l.label, b, l.index⟩] := rfl

@[simp] theorem Term.chainEntries_op (o : BooleanOp) (l r : Term) (b : Box) (n : Nat) (f : Flags)
    (op : BooleanOp) (flags : Flags) :
    (Term.op o l r b n f).chainEntries op flags =
      l.chainEntries op (flags.union f) ++ r.chainEntries o (flags.union f) := by
  simp only [chainEntries, RenderChain.append]
  rw [RenderChain.append_entries]
  rfl

theorem Term.chainEntries_source (t : Term) (op : BooleanOp) (flags : Flags) :
    (t.chainEntries op flags).map ChainEntry.source = t.leafOccurrences := by
  induction t generalizing op flags with
  | leaf l b f => rfl
  | op o l r b n f ihl ihr => simp [leafOccurrences, ihl, ihr]

theorem Term.chainEntries_ne_nil (t : Term) (op : BooleanOp) (flags : Flags) :
    t.chainEntries op flags ≠ [] := by
  induction t generalizing op flags with
  | leaf => simp
  | op o l r b n f ihl => simp [ihl]

/-! ### Sum-of-products form -/

@[simp] theorem Term.isSumOfProducts_leaf (l : Leaf) (b : Box) (f : Flags) :
    (Term.leaf l b f).isSumOfProducts = true := by
  simp [isSumOfProducts, subterms, productNode]

@[simp] theorem Term.isSumOfProducts_op (o : BooleanOp) (l r : Term) (b : Box) (n : Nat)
    (f : Flags) :
    (Term.op o l r b n f).isSumOfProducts =
      ((Term.op o l r b n f).productNode && l.isSumOfProducts && r.isSumOfProducts) := by
  simp [isSumOfProducts, subterms, Bool.and_assoc]

theorem Term.isSumOfProducts_of_isNormal {t : Term} (h : t.isNormal = true) :
    t.isSumOfProducts = true := by
  refine List.all_eq_true.mpr fun s hs => ?_
  have hnode := List.all_eq_true.mp h s hs
  cases s with
  | leaf => rfl
  | op o l r =>
    cases o <;> simp_all [nodeNormal, productNode]

theorem Term.product_op_parts {o : BooleanOp} {l r : Term} {b : Box} {n : Nat} {f : Flags}
    (hp : (Term.op o l r b n f).isSumOfProducts = true) (ho : o ≠ .union) :
    l.isSumOfProducts = true ∧ l.opKind? ≠ some .union ∧ ∃ x bx fx, r = .leaf x bx fx := by
  cases o with
  | union => exact absurd rfl ho
  | difference | intersection =>
    cases r with
    | leaf x bx fx => simp_all [productNode]
    | op => simp [productNode, isLeaf] at hp

theorem Term.chainOps_ne_union {p : Term} (hp : p.isSumOfProducts = true)
    (hprod : p.opKind? ≠ some .union) : ∀ o ∈ p.chainOps, o ≠ .union := by
  induction p with
  | leaf => simp [chainOps]
  | op o l r b n f ihl =>
    have ho : o ≠ .union := by simpa [opKind?] using hprod
    obtain ⟨hl, hlprod, -⟩ := product_op_parts hp ho
    intro o' hmem
    rcases List.mem_append.mp hmem with hinner | hlast
    · exact ihl hl hlprod o' hinner
    · rw [List.mem_singleton.mp hlast]
      exact ho

theorem Term.chainEntries_op_map {p : Term} (hp : p.isSumOfProducts = true)
    (hprod : p.opKind? ≠ some .union) (op : BooleanOp) (flags : Flags) :
    (p.chainEntries op flags).map ChainEntry.op = op :: p.chainOps := by
  induction p generalizing flags with
  | leaf => rfl
  | op o l r b n f ihl =>
    have ho : o ≠ .union := by simpa [opKind?] using hprod
    obtain ⟨hl, hlprod, x, bx, fx, rfl⟩ := product_op_parts hp ho
    simp [chainOps, ihl hl hlprod]

theorem runSet_append_singleton (S : Leaf → Set Vec3) {run : List ChainEntry} (hrun : run ≠ [])
    (e : ChainEntry) : runSet S (run ++ [e]) = e.op.onSets (runSet S run) (S e.leaf) := by
  obtain ⟨first, rest, rfl⟩ := List.exists_cons_of_ne_nil hrun
  simp [runSet]

theorem Term.runSet_chainEntries (S : Leaf → Set Vec3) {p : Term} (hp : p.isSumOfProducts = true)
    (hprod : p.opKind? ≠ some .union) (op : BooleanOp) (flags : Flags) :
    runSet S (p.chainEntries op flags) = p.denote S := by
  induction p generalizing flags with
  | leaf => rfl
  | op o l r b n f ihl =>
    have ho : o ≠ .union := by simpa [opKind?] using hprod
    obtain ⟨hl, hlprod, x, bx, fx, rfl⟩ := product_op_parts hp ho
    rw [chainEntries_op, chainEntries_leaf, runSet_append_singleton S (chainEntries_ne_nil l _ _),
      ihl hl hlprod]
    rfl

/-! ### Runs -/

theorem Term.union_induction {motive : Term → Prop}
    (union : ∀ l r b n f, motive l → motive r → motive (.op .union l r b n f))
    (product : ∀ t, t.opKind? ≠ some .union → motive t) (t : Term) : motive t := by
  induction t with
  | leaf l b f => exact product _ (by simp [opKind?])
  | op o l r b n f ihl ihr =>
    cases o with
    | union => exact union l r b n f ihl ihr
    | difference | intersection => exact product _ (by simp [opKind?])

def Term.runs : Term → Flags → List (List ChainEntry)
  | .op .union l r _ _ f, flags => l.runs (flags.union f) ++ r.runs (flags.union f)
  | t, flags => [t.chainEntries .union flags]

theorem Term.runs_of_ne_union {t : Term} (hprod : t.opKind? ≠ some .union) (flags : Flags) :
    t.runs flags = [t.chainEntries .union flags] := by
  cases t with
  | leaf => rfl
  | op o => cases o <;> simp_all [runs, opKind?]

theorem Term.products_of_ne_union {t : Term} (hprod : t.opKind? ≠ some .union) :
    t.products = [t] := by
  cases t with
  | leaf => rfl
  | op o => cases o <;> simp_all [products, opKind?]

theorem Term.chainEntries_union (t : Term) (flags : Flags) :
    t.chainEntries .union flags = (t.runs flags).flatten := by
  induction t using union_induction generalizing flags with
  | union l r b n f ihl ihr => simp [runs, ihl, ihr]
  | product t hprod => simp [runs_of_ne_union hprod]

theorem Term.runs_source (t : Term) (flags : Flags) :
    (t.runs flags).map (List.map ChainEntry.source) = t.products.map leafOccurrences := by
  induction t using union_induction generalizing flags with
  | union l r b n f ihl ihr => simp [runs, products, ihl, ihr]
  | product t hprod =>
    simp [runs_of_ne_union hprod, products_of_ne_union hprod, chainEntries_source]

theorem Term.runs_op {t : Term} (ht : t.isSumOfProducts = true) (flags : Flags) :
    (t.runs flags).map (List.map ChainEntry.op) = t.products.map fun p => .union :: p.chainOps := by
  induction t using union_induction generalizing flags with
  | union l r b n f ihl ihr =>
    simp only [isSumOfProducts_op, productNode, Bool.true_and, Bool.and_eq_true] at ht
    simp [runs, products, ihl ht.1, ihr ht.2]
  | product t hprod =>
    simp [runs_of_ne_union hprod, products_of_ne_union hprod, chainEntries_op_map ht hprod]

theorem Term.mem_denote_iff_runs (S : Leaf → Set Vec3) {t : Term} (ht : t.isSumOfProducts = true)
    (flags : Flags) (x : Vec3) : x ∈ t.denote S ↔ ∃ run ∈ t.runs flags, x ∈ runSet S run := by
  induction t using union_induction generalizing flags with
  | union l r b n f ihl ihr =>
    simp only [isSumOfProducts_op, productNode, Bool.true_and, Bool.and_eq_true] at ht
    simp [runs, BooleanOp.onSets, ihl ht.1 (flags.union f), ihr ht.2 (flags.union f), or_and_right,
      exists_or]
  | product t hprod => simp [runs_of_ne_union hprod, runSet_chainEntries S ht hprod]

/-! ### Splitting a chain at its unions -/

/-- A run: a union entry followed by entries that only subtract or intersect. -/
def IsRun : List ChainEntry → Prop
  | [] => False
  | e :: rest => e.op = .union ∧ ∀ e' ∈ rest, e'.op ≠ .union

theorem Term.isRun_of_mem_runs {t : Term} (ht : t.isSumOfProducts = true) (flags : Flags) :
    ∀ run ∈ t.runs flags, IsRun run := by
  induction t using union_induction generalizing flags with
  | union l r b n f ihl ihr =>
    simp only [isSumOfProducts_op, productNode, Bool.true_and, Bool.and_eq_true] at ht
    intro run hrun
    rcases List.mem_append.mp hrun with hleft | hright
    · exact ihl ht.1 _ run hleft
    · exact ihr ht.2 _ run hright
  | product p hprod =>
    intro run hrun
    rw [runs_of_ne_union hprod, List.mem_singleton] at hrun
    have hops := chainEntries_op_map ht hprod .union flags
    rw [← hrun] at hops
    match run, hops with
    | e :: rest, hops =>
      obtain ⟨hfirst, hrest⟩ := List.cons.inj hops
      refine ⟨hfirst, fun e' he' => chainOps_ne_union ht hprod e'.op ?_⟩
      exact hrest ▸ List.mem_map_of_mem he'

def productStep (acc : List (List ChainEntry) × List ChainEntry) (e : ChainEntry) :
    List (List ChainEntry) × List ChainEntry :=
  let (done, current) := acc
  if e.op == .union && !current.isEmpty then (current.reverse :: done, [e])
  else (done, e :: current)

def finishProducts (acc : List (List ChainEntry) × List ChainEntry) : List (List ChainEntry) :=
  let (done, current) := acc
  (if current.isEmpty then done else current.reverse :: done).reverse

theorem RenderChain.products_eq (c : RenderChain) :
    c.products = finishProducts (c.entries.toList.foldl productStep ([], [])) := rfl

theorem foldl_productStep_extend {rest : List ChainEntry} (hrest : ∀ e ∈ rest, e.op ≠ .union)
    (done : List (List ChainEntry)) (current : List ChainEntry) :
    rest.foldl productStep (done, current) = (done, rest.reverse ++ current) := by
  induction rest generalizing current with
  | nil => rfl
  | cons e rest ih =>
    have he : e.op ≠ .union := hrest e List.mem_cons_self
    rw [List.foldl_cons, productStep, if_neg (by simp [he]),
      ih fun e' he' => hrest e' (List.mem_cons_of_mem e he')]
    simp

theorem foldl_productStep_run {run : List ChainEntry} (hrun : IsRun run)
    (done : List (List ChainEntry)) (current : List ChainEntry) :
    run.foldl productStep (done, current) =
      (if current.isEmpty then done else current.reverse :: done, run.reverse) := by
  match run, hrun with
  | e :: rest, ⟨hfirst, hrest⟩ =>
    -- the union entry closes the open run, if any; the entries after it only extend the new one
    have hstep : productStep (done, current) e =
        (if current.isEmpty then done else current.reverse :: done, [e]) := by
      cases current <;> simp [productStep, hfirst]
    rw [List.foldl_cons, hstep, foldl_productStep_extend hrest]
    simp

theorem finishProducts_foldl_flatten {runs : List (List ChainEntry)}
    (hruns : ∀ run ∈ runs, IsRun run)
    (done : List (List ChainEntry)) (current : List ChainEntry) :
    finishProducts (runs.flatten.foldl productStep (done, current)) =
      finishProducts (done, current) ++ runs := by
  -- after each run, the ones before it are closed and it is the open one
  induction runs generalizing done current with
  | nil => simp
  | cons run runs ih =>
    have hrun := hruns run List.mem_cons_self
    have hne : run ≠ [] := by
      rintro rfl
      exact hrun
    rw [List.flatten_cons, List.foldl_append, foldl_productStep_run hrun,
      ih fun r hr => hruns r (List.mem_cons_of_mem run hr)]
    cases current <;> simp [finishProducts, hne]

theorem RenderChain.products_ofTerm {t : Term} (ht : t.isSumOfProducts = true) :
    (ofTerm (some t)).products = t.runs {} := by
  have hentries : (ofTerm (some t)).entries.toList = (t.runs {}).flatten :=
    Term.chainEntries_union t {}
  rw [products_eq, hentries, finishProducts_foldl_flatten (Term.isRun_of_mem_runs ht {})]
  rfl

/-! ### The chain of a sum of products -/

/-- Flattening a sum of products is faithful: one entry per leaf, in order; one product per
maximal union-free subterm, opened by a union entry and continued with the operation of each
later leaf's parent; and the products, each folded left to right, unite to what the term
stands for. -/
theorem RenderChain.ofTerm_faithful (S : Leaf → Set Vec3) {t : Term}
    (ht : t.isSumOfProducts = true) :
    (ofTerm (some t)).entries.toList.map ChainEntry.source = t.leafOccurrences ∧
      (ofTerm (some t)).products.map (List.map ChainEntry.source) =
        t.products.map Term.leafOccurrences ∧
      (ofTerm (some t)).products.map (List.map ChainEntry.op) =
        t.products.map (fun p => .union :: p.chainOps) ∧
      t.denote S = ⋃ run ∈ (ofTerm (some t)).products, runSet S run := by
  rw [products_ofTerm ht]
  refine ⟨t.chainEntries_source .union {}, t.runs_source {}, t.runs_op ht {}, ?_⟩
  ext x
  simp [t.mem_denote_iff_runs S ht {} x]

/-- A difference united with a leaf flattens to two products. -/
theorem RenderChain.ofTerm_faithful_union_of_difference :
    let a : Term := .leaf default default {}
    let t : Term := .op .union (.op .difference a a default 2 {}) a default 3 {}
    let S : Leaf → Set Vec3 := fun _ => Set.univ
    t.isSumOfProducts = true ∧
      (ofTerm (some t)).entries.toList.map ChainEntry.source = t.leafOccurrences ∧
      (ofTerm (some t)).products.map (List.map ChainEntry.source) =
        t.products.map Term.leafOccurrences ∧
      (ofTerm (some t)).products.map (List.map ChainEntry.op) =
        t.products.map (fun p => .union :: p.chainOps) ∧
      t.denote S = ⋃ run ∈ (ofTerm (some t)).products, runSet S run := by
  intro a t S
  have ht : t.isSumOfProducts = true := by decide
  exact ⟨ht, ofTerm_faithful S ht⟩

end CsgPreview.Csg
