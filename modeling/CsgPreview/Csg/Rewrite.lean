import CsgPreview.Csg.Term

/-!
The nine rewrite rules that take a term toward a union of products (intersections and
differences of leaves):

```
x - (y + z) → (x - y) - z          (x + y) - z → (x - z) + (y - z)
x * (y + z) → (x * y) + (x * z)    (x + y) * z → (x * z) + (y * z)
x - (y * z) → (x - y) + (x - z)    (x - y) * z → (x * z) - y
x * (y * z) → (x * y) * z
x - (y - z) → (x - y) + (x * z)
x * (y - z) → (x * y) - z
```

They are tried right operand first; the new nodes take the flags of the node they replace, and
are built with the pruning constructor, so a rewrite may also shrink the term.

Rewriting ends. A leaf weighs 2, a union the sum of its operands' weights plus one, an
intersection the left weight times the square of the right one, and a difference the left weight
times two to the power of the right one, plus one. Every rule lowers the weight of the node it
rewrites, pruning only lowers it further, and a node's weight grows strictly with each operand's,
so a rewrite anywhere in a term lowers the weight of the whole term.
-/

namespace CsgPreview.Csg

open CsgPreview.Geometry

/-- The result of the first rule that applies at a node: some new term (none for the empty
set), or nothing when no rule applies. -/
def rewrite (node : Term) : Option (Option Term) :=
  match node with
  | .leaf .. => none
  | .op o left right _ _ flags =>
    let c (o : BooleanOp) (l r : Option Term) : Option Term := Term.combineFlagged o l r flags
    let byRight : Option (Option Term) :=
      match right with
      | .op ro y z _ _ _ =>
        let x := some left
        match o, ro with
        | .difference, .union => some (c .difference (c .difference x (some y)) (some z))
        | .intersection, .union =>
          some (c .union (c .intersection x (some y)) (c .intersection x (some z)))
        | .difference, .intersection =>
          some (c .union (c .difference x (some y)) (c .difference x (some z)))
        | .intersection, .intersection =>
          some (c .intersection (c .intersection x (some y)) (some z))
        | .difference, .difference =>
          some (c .union (c .difference x (some y)) (c .intersection x (some z)))
        | .intersection, .difference =>
          some (c .difference (c .intersection x (some y)) (some z))
        | _, _ => none
      | .leaf .. => none
    match byRight with
    | some r => some r
    | none =>
      match left with
      | .op lo x y _ _ _ =>
        let z := some right
        match o, lo with
        | .intersection, .difference => some (c .difference (c .intersection (some x) z) (some y))
        | .difference, .union =>
          some (c .union (c .difference (some x) z) (c .difference (some y) z))
        | .intersection, .union =>
          some (c .union (c .intersection (some x) z) (c .intersection (some y) z))
        | _, _ => none
      | .leaf .. => none

def opWeight : BooleanOp → Nat → Nat → Nat
  | .union, a, b => a + b + 1
  | .intersection, a, b => a * Nat.pow b 2
  | .difference, a, b => a * Nat.pow 2 b + 1

def Term.weight : Term → Nat
  | .leaf .. => 2
  | .op o l r .. => opWeight o l.weight r.weight

def optWeight : Option Term → Nat
  | none => 0
  | some t => t.weight

@[simp] theorem optWeight_none : optWeight none = 0 := rfl

@[simp] theorem optWeight_some (t : Term) : optWeight (some t) = t.weight := rfl

@[simp] theorem Term.weight_op (o : BooleanOp) (l r : Term) (b : Box) (n : Nat) (f : Flags) :
    (Term.op o l r b n f).weight = opWeight o l.weight r.weight := rfl

theorem Term.two_le_weight (t : Term) : 2 ≤ t.weight := by
  induction t with
  | leaf => exact Nat.le_refl 2
  | op o l r _ _ _ ihl _ =>
    cases o with
    | union => simp only [weight_op, opWeight]; omega
    | intersection =>
      have : 1 ≤ r.weight ^ 2 := Nat.one_le_pow _ _ (by omega)
      have := Nat.mul_le_mul ihl this
      simp only [weight_op, opWeight, Nat.pow_eq]
      omega
    | difference =>
      have := Nat.mul_le_mul ihl (Nat.one_le_two_pow (n := r.weight))
      simp only [weight_op, opWeight, Nat.pow_eq]
      omega

theorem opWeight_mono {o : BooleanOp} {a a' b b' : Nat} (ha : a ≤ a') (hb : b ≤ b') :
    opWeight o a b ≤ opWeight o a' b' := by
  cases o with
  | union => simp only [opWeight]; omega
  | intersection => exact Nat.mul_le_mul ha (Nat.pow_le_pow_left hb 2)
  | difference =>
    exact Nat.succ_le_succ (Nat.mul_le_mul ha (Nat.pow_le_pow_right (by decide) hb))

theorem opWeight_lt_left {o : BooleanOp} {a a' b : Nat} (hb : 1 ≤ b) (ha : a < a') :
    opWeight o a b < opWeight o a' b := by
  cases o with
  | union => simp only [opWeight]; omega
  | intersection => exact Nat.mul_lt_mul_of_pos_right ha (Nat.one_le_pow _ _ hb)
  | difference => exact Nat.succ_lt_succ (Nat.mul_lt_mul_of_pos_right ha Nat.one_le_two_pow)

theorem opWeight_lt_right {o : BooleanOp} {a b b' : Nat} (ha : 1 ≤ a) (hb : b < b') :
    opWeight o a b < opWeight o a b' := by
  cases o with
  | union => simp only [opWeight]; omega
  | intersection => exact Nat.mul_lt_mul_of_pos_left (Nat.pow_lt_pow_left hb (by decide)) ha
  | difference =>
    exact Nat.succ_lt_succ
      (Nat.mul_lt_mul_of_pos_left (Nat.pow_lt_pow_right (by decide) hb) ha)

@[simp] theorem Term.weight_opNode (o : BooleanOp) (l r : Term) (f : Flags) :
    (Term.opNode o l r f).weight = opWeight o l.weight r.weight := rfl

theorem le_opWeight_difference (a b : Nat) : a ≤ opWeight .difference a b := by
  have : a ≤ a * 2 ^ b := Nat.le_mul_of_pos_right a (Nat.two_pow_pos b)
  simp only [opWeight, Nat.pow_eq]
  omega

theorem optWeight_combineFlagged_le (o : BooleanOp) (l r : Option Term) (f : Flags) :
    optWeight (Term.combineFlagged o l r f) ≤ opWeight o (optWeight l) (optWeight r) := by
  cases l with
  | none => cases o <;> simp [Term.combineFlagged, opWeight]
  | some left =>
    cases r with
    | none => cases o <;> simp [Term.combineFlagged, opWeight]
    | some right =>
      cases o with
      | union => simp only [Term.combineFlagged]; split <;> simp
      | intersection => simp only [Term.combineFlagged]; split <;> simp
      | difference =>
        simp only [Term.combineFlagged]
        split
        · exact le_opWeight_difference _ _
        · simp

theorem four_le_two_pow {n : Nat} (h : 2 ≤ n) : 4 ≤ Nat.pow 2 n :=
  Nat.pow_le_pow_right (n := 2) (by decide) h

theorem sq_lt_two_pow_succ (n : Nat) : Nat.pow n 2 < Nat.pow 2 (n + 1) := by
  induction n with
  | zero => decide
  | succ n ih =>
    match n, ih with
    | 0, _ | 1, _ | 2, _ => decide
    | n + 3, ih =>
      have : 3 * (n + 3) ≤ (n + 3) * (n + 3) := Nat.mul_le_mul_right _ (by omega)
      simp only [Nat.pow_eq] at ih ⊢
      rw [Nat.pow_succ 2 (n + 3 + 1)]
      grind

theorem two_pow_add_lt_mul {y z : Nat} (hy : 2 ≤ y) (hz : 2 ≤ z) :
    Nat.pow 2 y + Nat.pow 2 z + 2 ≤ Nat.pow 2 y * Nat.pow 2 z := by
  have hy4 : 4 ≤ 2 ^ y := four_le_two_pow hy
  have hz4 : 4 ≤ 2 ^ z := four_le_two_pow hz
  simp only [Nat.pow_eq]
  have := Nat.mul_le_mul_right (2 ^ z) hy4
  have := Nat.mul_le_mul_left (2 ^ y) hz4
  omega

section RuleWeights

variable {x y z : Nat}

theorem opWeight_differenceUnion (hx : 2 ≤ x) :
    opWeight .difference (opWeight .difference x y) z <
      opWeight .difference x (opWeight .union y z) := by
  have hxy : 2 ≤ x * 2 ^ y := Nat.mul_le_mul hx (Nat.one_le_two_pow (n := y))
  have := Nat.mul_le_mul_right (2 ^ z) hxy
  have : 1 ≤ 2 ^ z := Nat.one_le_two_pow
  simp only [opWeight, Nat.pow_eq, Nat.pow_succ, Nat.pow_add]
  grind

theorem opWeight_intersectionUnion (hx : 2 ≤ x) :
    opWeight .union (opWeight .intersection x y) (opWeight .intersection x z) <
      opWeight .intersection x (opWeight .union y z) := by
  simp only [opWeight, Nat.pow_eq]
  grind

theorem opWeight_differenceIntersection (hx : 2 ≤ x) (hy : 2 ≤ y) (hz : 2 ≤ z) :
    opWeight .union (opWeight .difference x y) (opWeight .difference x z) <
      opWeight .difference x (opWeight .intersection y z) := by
  have hexp : y + z ≤ y * z ^ 2 := by
    have := Nat.mul_le_mul_left y (Nat.pow_le_pow_left hz 2)
    have := Nat.mul_le_mul_right (z ^ 2) hy
    have : z ≤ z ^ 2 := Nat.le_self_pow (by decide) z
    omega
  have hpow : 2 ^ y * 2 ^ z ≤ 2 ^ (y * z ^ 2) := by
    rw [← Nat.pow_add]
    exact Nat.pow_le_pow_right (by decide) hexp
  have hsum : 2 ^ y + 2 ^ z + 2 ≤ 2 ^ (y * z ^ 2) := Nat.le_trans (two_pow_add_lt_mul hy hz) hpow
  have := Nat.mul_le_mul_left x hsum
  simp only [opWeight, Nat.pow_eq]
  rw [Nat.mul_add, Nat.mul_add] at this
  omega

theorem opWeight_intersectionIntersection (hx : 2 ≤ x) (hy : 2 ≤ y) (hz : 2 ≤ z) :
    opWeight .intersection (opWeight .intersection x y) z <
      opWeight .intersection x (opWeight .intersection y z) := by
  have hz2 : z ^ 2 < z ^ 4 := Nat.pow_lt_pow_right (by omega) (by decide)
  have hxy : 0 < x * y ^ 2 := Nat.mul_pos (by omega) (Nat.pow_pos (by omega))
  have := Nat.mul_lt_mul_of_pos_left hz2 hxy
  simp only [opWeight, Nat.pow_eq]
  grind

theorem opWeight_differenceDifference (hx : 2 ≤ x) (hy : 2 ≤ y) (hz : 2 ≤ z) :
    opWeight .union (opWeight .difference x y) (opWeight .intersection x z) <
      opWeight .difference x (opWeight .difference y z) := by
  have hsq : z ^ 2 < 2 * 2 ^ z := by
    have : z ^ 2 < 2 ^ (z + 1) := sq_lt_two_pow_succ z
    rw [show 2 ^ (z + 1) = 2 * 2 ^ z from by rw [Nat.pow_succ, Nat.mul_comm]] at this
    exact this
  have hexp : y + z ≤ y * 2 ^ z := by
    have := Nat.mul_le_mul_left y (show z + 1 ≤ 2 ^ z from Nat.lt_two_pow_self)
    have := Nat.mul_le_mul_right z hy
    rw [Nat.mul_add, Nat.mul_one] at *
    omega
  have hpow : 2 ^ y * 2 ^ z ≤ 2 ^ (y * 2 ^ z) := by
    rw [← Nat.pow_add]
    exact Nat.pow_le_pow_right (by decide) hexp
  have hprod : 2 ^ y + 2 ^ z + 2 ≤ 2 ^ y * 2 ^ z := two_pow_add_lt_mul hy hz
  have hy4 : 4 ≤ 2 ^ y := four_le_two_pow hy
  have hsum : 2 ^ y + z ^ 2 + 2 ≤ 2 ^ (y * 2 ^ z + 1) := by
    rw [show 2 ^ (y * 2 ^ z + 1) = 2 * 2 ^ (y * 2 ^ z) from by rw [Nat.pow_succ, Nat.mul_comm]]
    omega
  have := Nat.mul_le_mul_left x hsum
  simp only [opWeight, Nat.pow_eq]
  rw [Nat.mul_add, Nat.mul_add] at this
  omega

theorem opWeight_intersectionDifference (hx : 2 ≤ x) :
    opWeight .difference (opWeight .intersection x y) z <
      opWeight .intersection x (opWeight .difference y z) := by
  have hb : 1 ≤ 2 ^ z := Nat.one_le_two_pow
  simp only [opWeight, Nat.pow_eq]
  generalize 2 ^ z = b at hb ⊢
  have grow : y ^ 2 * b + 1 ≤ (y * b + 1) ^ 2 := by
    have := Nat.mul_le_mul_left (y ^ 2 * b) hb
    grind
  have := Nat.mul_le_mul_left x grow
  grind

theorem opWeight_leftDifferenceIntersection (hz : 2 ≤ z) :
    opWeight .difference (opWeight .intersection x z) y <
      opWeight .intersection (opWeight .difference x y) z := by
  have : 4 ≤ z ^ 2 := Nat.pow_le_pow_left hz 2
  simp only [opWeight, Nat.pow_eq]
  grind

theorem opWeight_leftUnionDifference (hz : 2 ≤ z) :
    opWeight .union (opWeight .difference x z) (opWeight .difference y z) <
      opWeight .difference (opWeight .union x y) z := by
  have : 4 ≤ 2 ^ z := four_le_two_pow hz
  simp only [opWeight, Nat.pow_eq]
  grind

theorem opWeight_leftUnionIntersection (hz : 2 ≤ z) :
    opWeight .union (opWeight .intersection x z) (opWeight .intersection y z) <
      opWeight .intersection (opWeight .union x y) z := by
  have : 4 ≤ z ^ 2 := Nat.pow_le_pow_left hz 2
  simp only [opWeight, Nat.pow_eq]
  grind

end RuleWeights

/-- The nine rules as a relation between a node and what it is rewritten to; the new nodes take
the flags of the node they replace. -/
inductive Rule : Term → Option Term → Prop
  | differenceUnion (x y z : Term) (b b' : Box) (n n' : Nat) (f f' : Flags) :
    Rule (.op .difference x (.op .union y z b' n' f') b n f)
      (Term.combineFlagged .difference
        (Term.combineFlagged .difference (some x) (some y) f) (some z) f)
  | intersectionUnion (x y z : Term) (b b' : Box) (n n' : Nat) (f f' : Flags) :
    Rule (.op .intersection x (.op .union y z b' n' f') b n f)
      (Term.combineFlagged .union (Term.combineFlagged .intersection (some x) (some y) f)
        (Term.combineFlagged .intersection (some x) (some z) f) f)
  | differenceIntersection (x y z : Term) (b b' : Box) (n n' : Nat) (f f' : Flags) :
    Rule (.op .difference x (.op .intersection y z b' n' f') b n f)
      (Term.combineFlagged .union (Term.combineFlagged .difference (some x) (some y) f)
        (Term.combineFlagged .difference (some x) (some z) f) f)
  | intersectionIntersection (x y z : Term) (b b' : Box) (n n' : Nat) (f f' : Flags) :
    Rule (.op .intersection x (.op .intersection y z b' n' f') b n f)
      (Term.combineFlagged .intersection
        (Term.combineFlagged .intersection (some x) (some y) f) (some z) f)
  | differenceDifference (x y z : Term) (b b' : Box) (n n' : Nat) (f f' : Flags) :
    Rule (.op .difference x (.op .difference y z b' n' f') b n f)
      (Term.combineFlagged .union (Term.combineFlagged .difference (some x) (some y) f)
        (Term.combineFlagged .intersection (some x) (some z) f) f)
  | intersectionDifference (x y z : Term) (b b' : Box) (n n' : Nat) (f f' : Flags) :
    Rule (.op .intersection x (.op .difference y z b' n' f') b n f)
      (Term.combineFlagged .difference
        (Term.combineFlagged .intersection (some x) (some y) f) (some z) f)
  | leftDifferenceIntersection (x y z : Term) (b b' : Box) (n n' : Nat) (f f' : Flags) :
    Rule (.op .intersection (.op .difference x y b' n' f') z b n f)
      (Term.combineFlagged .difference
        (Term.combineFlagged .intersection (some x) (some z) f) (some y) f)
  | leftUnionDifference (x y z : Term) (b b' : Box) (n n' : Nat) (f f' : Flags) :
    Rule (.op .difference (.op .union x y b' n' f') z b n f)
      (Term.combineFlagged .union (Term.combineFlagged .difference (some x) (some z) f)
        (Term.combineFlagged .difference (some y) (some z) f) f)
  | leftUnionIntersection (x y z : Term) (b b' : Box) (n n' : Nat) (f f' : Flags) :
    Rule (.op .intersection (.op .union x y b' n' f') z b n f)
      (Term.combineFlagged .union (Term.combineFlagged .intersection (some x) (some z) f)
        (Term.combineFlagged .intersection (some y) (some z) f) f)

theorem Rule.of_rewrite {node : Term} {r : Option Term} (h : rewrite node = some r) :
    Rule node r := by
  rcases node with _ | ⟨o, left, right, b, n, f⟩
  · simp [rewrite] at h
  · rcases right with _ | ⟨ro, y, z, b', n', f'⟩ <;> rcases left with _ | ⟨lo, x, x', b'', n'', f''⟩ <;>
      cases o <;> (try cases ro) <;> (try cases lo) <;>
      simp only [rewrite, Option.some.injEq, reduceCtorEq] at h <;> subst h <;> constructor

theorem optWeight_combineFlagged_le_of {o : BooleanOp} {l r : Option Term} {a b : Nat}
    (f : Flags) (hl : optWeight l ≤ a) (hr : optWeight r ≤ b) :
    optWeight (Term.combineFlagged o l r f) ≤ opWeight o a b :=
  Nat.le_trans (optWeight_combineFlagged_le o l r f) (opWeight_mono hl hr)

theorem Rule.optWeight_lt {node : Term} {r : Option Term} (h : Rule node r) :
    optWeight r < node.weight := by
  cases h with
  | differenceUnion x y z =>
    calc _ ≤ opWeight .difference (opWeight .difference x.weight y.weight) z.weight :=
          optWeight_combineFlagged_le_of _ (optWeight_combineFlagged_le_of _ (Nat.le_refl _) (Nat.le_refl _)) (Nat.le_refl _)
      _ < _ := opWeight_differenceUnion x.two_le_weight
  | intersectionUnion x y z =>
    calc _ ≤ opWeight .union (opWeight .intersection x.weight y.weight)
            (opWeight .intersection x.weight z.weight) :=
          optWeight_combineFlagged_le_of _ (optWeight_combineFlagged_le_of _ (Nat.le_refl _) (Nat.le_refl _))
            (optWeight_combineFlagged_le_of _ (Nat.le_refl _) (Nat.le_refl _))
      _ < _ := opWeight_intersectionUnion x.two_le_weight
  | differenceIntersection x y z =>
    calc _ ≤ opWeight .union (opWeight .difference x.weight y.weight)
            (opWeight .difference x.weight z.weight) :=
          optWeight_combineFlagged_le_of _ (optWeight_combineFlagged_le_of _ (Nat.le_refl _) (Nat.le_refl _))
            (optWeight_combineFlagged_le_of _ (Nat.le_refl _) (Nat.le_refl _))
      _ < _ := opWeight_differenceIntersection x.two_le_weight y.two_le_weight z.two_le_weight
  | intersectionIntersection x y z =>
    calc _ ≤ opWeight .intersection (opWeight .intersection x.weight y.weight) z.weight :=
          optWeight_combineFlagged_le_of _ (optWeight_combineFlagged_le_of _ (Nat.le_refl _) (Nat.le_refl _)) (Nat.le_refl _)
      _ < _ := opWeight_intersectionIntersection x.two_le_weight y.two_le_weight z.two_le_weight
  | differenceDifference x y z =>
    calc _ ≤ opWeight .union (opWeight .difference x.weight y.weight)
            (opWeight .intersection x.weight z.weight) :=
          optWeight_combineFlagged_le_of _ (optWeight_combineFlagged_le_of _ (Nat.le_refl _) (Nat.le_refl _))
            (optWeight_combineFlagged_le_of _ (Nat.le_refl _) (Nat.le_refl _))
      _ < _ := opWeight_differenceDifference x.two_le_weight y.two_le_weight z.two_le_weight
  | intersectionDifference x y z =>
    calc _ ≤ opWeight .difference (opWeight .intersection x.weight y.weight) z.weight :=
          optWeight_combineFlagged_le_of _ (optWeight_combineFlagged_le_of _ (Nat.le_refl _) (Nat.le_refl _)) (Nat.le_refl _)
      _ < _ := opWeight_intersectionDifference x.two_le_weight
  | leftDifferenceIntersection x y z =>
    calc _ ≤ opWeight .difference (opWeight .intersection x.weight z.weight) y.weight :=
          optWeight_combineFlagged_le_of _ (optWeight_combineFlagged_le_of _ (Nat.le_refl _) (Nat.le_refl _)) (Nat.le_refl _)
      _ < _ := opWeight_leftDifferenceIntersection z.two_le_weight
  | leftUnionDifference x y z =>
    calc _ ≤ opWeight .union (opWeight .difference x.weight z.weight)
            (opWeight .difference y.weight z.weight) :=
          optWeight_combineFlagged_le_of _ (optWeight_combineFlagged_le_of _ (Nat.le_refl _) (Nat.le_refl _))
            (optWeight_combineFlagged_le_of _ (Nat.le_refl _) (Nat.le_refl _))
      _ < _ := opWeight_leftUnionDifference z.two_le_weight
  | leftUnionIntersection x y z =>
    calc _ ≤ opWeight .union (opWeight .intersection x.weight z.weight)
            (opWeight .intersection y.weight z.weight) :=
          optWeight_combineFlagged_le_of _ (optWeight_combineFlagged_le_of _ (Nat.le_refl _) (Nat.le_refl _))
            (optWeight_combineFlagged_le_of _ (Nat.le_refl _) (Nat.le_refl _))
      _ < _ := opWeight_leftUnionIntersection z.two_le_weight

theorem optWeight_rewrite_lt {node : Term} {r : Option Term} (h : rewrite node = some r) :
    optWeight r < node.weight :=
  (Rule.of_rewrite h).optWeight_lt

theorem rewrite_op_eq_none_iff (o : BooleanOp) (l r : Term) (b : Box) (n : Nat) (f : Flags) :
    rewrite (.op o l r b n f) = none ↔
      o = .union ∨ r.isLeaf = true ∧ l.opKind? ≠ some .union ∧
        (o = .intersection → l.opKind? ≠ some .difference) := by
  rcases r with _ | ⟨ro, y, z, b', n', f'⟩ <;> rcases l with _ | ⟨lo, x, x', b'', n'', f''⟩ <;>
    cases o <;> (try cases ro) <;> (try cases lo) <;>
    simp [rewrite, Term.isLeaf, Term.opKind?]

end CsgPreview.Csg
