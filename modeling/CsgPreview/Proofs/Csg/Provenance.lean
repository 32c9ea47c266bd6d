import Mathlib
import CsgPreview.Proofs.Csg.Flatten
import CsgPreview.Proofs.Csg.PassRelation

/-!
Where the leaves of a term come from, and the color mode they are drawn in.

A term is *within* a leaf predicate `p` and flags `F` when each of its leaves satisfies `p` and
every flag set on any of its nodes is set in `F`. The constructors keep this. The rewrite rules
give each new node the flags of the node it replaces and reuse only that node's operands, so a
normalized term is within whatever its input was within: normalization only moves leaves around.
Importing a term under flags `G` that hold `F` draws every leaf in the color mode of `G`.
-/

namespace CsgPreview.Csg

open CsgPreview.Geometry

instance : LE Flags := ⟨fun a b => a.highlight ≤ b.highlight ∧ a.background ≤ b.background⟩

namespace Flags

theorem le_def {a b : Flags} : a ≤ b ↔ a.highlight ≤ b.highlight ∧ a.background ≤ b.background :=
  Iff.rfl

@[simp] theorem le_refl (a : Flags) : a ≤ a := ⟨Bool.le_refl _, Bool.le_refl _⟩

theorem le_trans {a b c : Flags} (hab : a ≤ b) (hbc : b ≤ c) : a ≤ c :=
  ⟨Bool.le_trans hab.1 hbc.1, Bool.le_trans hab.2 hbc.2⟩

@[simp] theorem empty_le (a : Flags) : ({} : Flags) ≤ a := ⟨Bool.false_le _, Bool.false_le _⟩

@[simp] theorem union_le_iff {a b c : Flags} : a.union b ≤ c ↔ a ≤ c ∧ b ≤ c := by
  cases a; cases b; cases c
  simp only [le_def, union]
  decide +revert

theorem union_of_le {f g : Flags} (h : f ≤ g) : g.union f = g := by
  cases f; cases g
  revert h
  simp only [le_def, union, mk.injEq]
  decide +revert

end Flags

/-- Every leaf of the term satisfies `p` and every flag set in it is set in `F`. -/
def Term.Within (p : Leaf → Prop) (F : Flags) : Term → Prop
  | .leaf l _ f => p l ∧ f ≤ F
  | .op _ l r _ _ f => l.Within p F ∧ r.Within p F ∧ f ≤ F

/-- `Term.Within` of a term that may be the empty set. -/
def OptWithin (p : Leaf → Prop) (F : Flags) : Option Term → Prop
  | none => True
  | some t => t.Within p F

variable {p p' : Leaf → Prop} {F F' : Flags}

@[simp] theorem optWithin_none : OptWithin p F none := trivial

@[simp] theorem optWithin_some (t : Term) : OptWithin p F (some t) ↔ t.Within p F := Iff.rfl

theorem Term.Within.mono {t : Term} (h : t.Within p F) (hp : ∀ l, p l → p' l) (hF : F ≤ F') :
    t.Within p' F' := by
  induction t with
  | leaf l b f => exact ⟨hp l h.1, Flags.le_trans h.2 hF⟩
  | op o l r b n f ihl ihr => exact ⟨ihl h.1, ihr h.2.1, Flags.le_trans h.2.2 hF⟩

theorem OptWithin.mono {t : Option Term} (h : OptWithin p F t) (hp : ∀ l, p l → p' l)
    (hF : F ≤ F') : OptWithin p' F' t := by
  cases t with
  | none => trivial
  | some t => exact Term.Within.mono h hp hF

theorem Term.Within.withFlags {t : Term} (h : t.Within p F) {f : Flags} (hf : f ≤ F) :
    (t.withFlags f).Within p F := by
  cases t with
  | leaf l b g => exact ⟨h.1, Flags.union_le_iff.mpr ⟨h.2, hf⟩⟩
  | op o l r b n g => exact ⟨h.1, h.2.1, Flags.union_le_iff.mpr ⟨h.2.2, hf⟩⟩

theorem Term.Within.opNode {l r : Term} (hl : l.Within p F) (hr : r.Within p F) (o : BooleanOp)
    {f : Flags} (hf : f ≤ F) : (Term.opNode o l r f).Within p F :=
  ⟨hl, hr, hf⟩

theorem OptWithin.combineFlagged {l r : Option Term} (hl : OptWithin p F l)
    (hr : OptWithin p F r) (o : BooleanOp) {f : Flags} (hf : f ≤ F) :
    OptWithin p F (Term.combineFlagged o l r f) := by
  cases l with
  | none => cases o <;> cases r <;> simp_all [Term.combineFlagged]
  | some l =>
    cases r with
    | none => cases o <;> simp_all [Term.combineFlagged]
    | some r =>
      have hnode : (Term.opNode o l r f).Within p F := Term.Within.opNode hl hr o hf
      cases o <;> by_cases hit : l.box.intersects r.box <;> simp_all [Term.combineFlagged]

theorem OptWithin.combine {l r : Option Term} (hl : OptWithin p F l) (hr : OptWithin p F r)
    (o : BooleanOp) : OptWithin p F (Term.combine o l r) :=
  hl.combineFlagged hr o (Flags.empty_le F)

theorem optWithin_ofLeaf {l : Leaf} (h : p l) : OptWithin p F (Term.ofLeaf l) := by
  unfold Term.ofLeaf
  split
  · trivial
  · exact ⟨h, Flags.empty_le F⟩

/-! ### Normalization -/

theorem Rule.optWithin {node : Term} {r : Option Term} (h : Rule node r)
    (hnode : node.Within p F) : OptWithin p F r := by
  cases h <;> simp_all [Term.Within, OptWithin.combineFlagged]

theorem OptWithin.rebuild {node : Term} {l r : Option Term} (hnode : node.Within p F)
    (hl : OptWithin p F l) (hr : OptWithin p F r) (changed : Bool) :
    OptWithin p F (rebuild node l r changed).1 := by
  cases node with
  | leaf => exact hnode
  | op o left right b n f =>
    have hcombined := hl.combineFlagged hr o hnode.2.2
    cases l <;> cases r <;> cases changed <;> simp_all [Csg.rebuild]

variable (p F) in
/-- What a pass may make of a term within `p` and `F` is within them too. -/
def KeepsWithin (node : Term) (result : Option Term) : Prop :=
  node.Within p F → OptWithin p F result

theorem keepsWithin_passRelation : PassRelation (KeepsWithin p F) where
  refl _ h := h
  trans hab hbc h := hbc (hab h)
  rewrite found h := (Rule.of_rewrite found).optWithin h
  left _ hl h := OptWithin.rebuild h (hl h.1) (r := some _) h.2.1 _
  right _ hr h := OptWithin.rebuild h (l := some _) h.1 (hr h.2.1) _

/-- A result made only of the leaves of a term and the flags found in it: whatever the term is
within, the result is within too. -/
def Regroups (node : Term) (result : Option Term) : Prop :=
  ∀ p F, node.Within p F → OptWithin p F result

theorem normalize_regroups (t : Term) (budget : Nat) (cancel : Pipeline.CancelToken)
    (log : Array LogRecord) {n : Normalized} (hn : ((normalize budget cancel t).run.run log).1 = .ok n) :
    Regroups t n.term := by
  intro p F ht
  obtain ⟨r, log', run, ended⟩ := keepsWithin_passRelation.normalizePasses budget cancel t 0 true log
  rw [normalize, run] at hn
  rcases ended with ⟨-, rfl⟩ | ⟨n', rfl, hkeeps⟩
  · cases hn
  · cases hn
    exact hkeeps ht

/-! ### Color modes -/

theorem Term.chainEntries_within {t : Term} (ht : t.Within p F) {G : Flags} (hG : F ≤ G)
    (op : BooleanOp) : ∀ e ∈ t.chainEntries op G, p e.leaf ∧ e.mode = .ofFlags G := by
  induction t generalizing op with
  | leaf l b f =>
    intro e he
    rw [chainEntries_leaf, List.mem_singleton] at he
    subst he
    exact ⟨ht.1, by rw [Flags.union_of_le (Flags.le_trans ht.2 hG)]⟩
  | op o l r b n f ihl ihr =>
    intro e he
    rw [chainEntries_op, Flags.union_of_le (Flags.le_trans ht.2.2 hG), List.mem_append] at he
    rcases he with hleft | hright
    · exact ihl ht.1 op e hleft
    · exact ihr ht.2.1 o e hright

end CsgPreview.Csg
