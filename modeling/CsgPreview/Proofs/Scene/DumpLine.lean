import Mathlib
import CsgPreview.Scene.Node

/-!
What a dump line says.

A dump line names a node's operation and prints every parameter it was built with: numbers in
their plain decimal form, counts and flags as words. Printed values are made of digits, letters,
the sign and the point only, so the punctuation after each (`,`, `]`, `)`) marks where it ends,
and two lines are read back against each other one field at a time. Equal lines then come from
the same primitive, or from transforms by the same matrix, as long as the numbers involved print
apart; shortest digits that read back print every two numbers apart but NaNs of different
payloads. Lines of other operations differ in their names. No line holds a line break or a `#`,
which is what subtree keys rely on.
-/

namespace CsgPreview.Decimal

/-- The characters printed values are made of: digits, letters (`NaN`, `inf`, `true`, `false`),
the sign and the point. -/
def valueChar (c : Char) : Bool := c.isDigit || c.isAlpha || c == '-' || c == '.'

/-- Text made of value characters only. -/
def ValueText (s : String) : Prop := ∀ c ∈ s.toList, valueChar c = true

theorem ValueText.append {s s' : String} (h : ValueText s) (h' : ValueText s') :
    ValueText (s ++ s') := by
  intro c mem
  rw [String.toList_append, List.mem_append] at mem
  rcases mem with mem | mem
  · exact h c mem
  · exact h' c mem

theorem valueText_ofList {l : List Char} (h : ∀ c ∈ l, valueChar c = true) :
    ValueText (String.ofList l) := by
  intro c mem
  rw [String.toList_ofList] at mem
  exact h c mem

theorem valueText_of_isDigit {l : List Char} (h : ∀ c ∈ l, c.isDigit = true) :
    ValueText (String.ofList l) :=
  valueText_ofList fun c mem => by simp [valueChar, h c mem]

theorem valueText_literal {s : String} (h : s.toList.all valueChar = true) : ValueText s := by
  intro c mem
  exact List.all_eq_true.mp h c mem

@[simp] theorem valueText_toString_nat (n : Nat) : ValueText (toString n) := by
  rw [Nat.toString_eq_ofList_toDigits]
  exact valueText_of_isDigit fun c mem => Nat.isDigit_of_mem_toDigits (by decide) (by decide) mem

@[simp] theorem valueText_toString_uint32 (n : UInt32) : ValueText (toString n) :=
  valueText_toString_nat n.toNat

@[simp] theorem valueText_toString_bool (b : Bool) : ValueText (toString b) := by
  cases b <;> exact valueText_literal (by decide)

theorem valueText_positional (d : Digits) : ValueText d.positional := by
  have text : ValueText d.text := valueText_toString_nat d.digits
  have zeros : ∀ n, ∀ c ∈ List.replicate n '0', valueChar c = true := fun n c mem => by
    rw [List.eq_of_mem_replicate mem]
    rfl
  dsimp only [Digits.positional]
  split
  · exact ((valueText_literal (by decide)).append (valueText_ofList (zeros _))).append text
  · split
    · exact ((valueText_ofList fun c mem => text c (List.mem_of_mem_take mem)).append
        (valueText_literal (by decide))).append
        (valueText_ofList fun c mem => text c (List.mem_of_mem_drop mem))
    · exact text.append (valueText_ofList (zeros _))

theorem valueText_plain (u : Unpacked) : ValueText u.plain := by
  cases u with
  | nan => exact valueText_literal (by decide)
  | infinite negative => cases negative <;> exact valueText_literal (by decide)
  | zero negative => cases negative <;> exact valueText_literal (by decide)
  | finite negative v =>
    cases negative
    · exact (valueText_literal (by decide)).append (valueText_positional _)
    · exact (valueText_literal (by decide)).append (valueText_positional _)

@[simp] theorem valueText_plainOfFloat (x : Float) : ValueText (plainOfFloat x) :=
  valueText_plain _

@[simp] theorem valueText_plainOfFloat32 (x : Float32) : ValueText (plainOfFloat32 x) :=
  valueText_plain _

/-! ### The characters of a line -/

/-- The characters of a dump line: those of printed values and of the punctuation and spaces
between them. -/
def lineChar (c : Char) : Bool := valueChar c || c == '(' || c == ')' || c == '[' || c == ']' ||
  c == ',' || c == ' ' || c == '=' || c == '$'

/-- Text made of the characters of a dump line only. -/
def LineText (s : String) : Prop := ∀ c ∈ s.toList, lineChar c = true

theorem LineText.append {s s' : String} (h : LineText s) (h' : LineText s') :
    LineText (s ++ s') := by
  intro c mem
  rw [String.toList_append, List.mem_append] at mem
  rcases mem with mem | mem
  · exact h c mem
  · exact h' c mem

theorem ValueText.lineText {s : String} (h : ValueText s) : LineText s := fun c mem => by
  simp [lineChar, h c mem]

theorem lineText_literal {s : String} (h : s.toList.all lineChar = true) : LineText s := by
  intro c mem
  exact List.all_eq_true.mp h c mem

theorem LineText.intercalate {sep : String} (hsep : LineText sep) :
    ∀ {l : List String}, (∀ s ∈ l, LineText s) → LineText (sep.intercalate l)
  | [], _ => fun c mem => by simp at mem
  | [s], h => by
    rw [String.intercalate_singleton]
    exact h s List.mem_cons_self
  | s :: s' :: rest, h => by
    rw [String.intercalate_cons_cons]
    exact ((h s List.mem_cons_self).append hsep).append
      (LineText.intercalate hsep fun x mem => h x (List.mem_cons_of_mem _ mem))

theorem lineText_iff {s : String} : LineText s ↔ s.toList.all lineChar = true := by
  simp [LineText, List.all_eq_true]

theorem ValueText.all_lineChar {s : String} (h : ValueText s) : s.toList.all lineChar = true :=
  lineText_iff.mp h.lineText

theorem LineText.not_mem {s : String} (h : LineText s) {c : Char} (hc : lineChar c = false) :
    c ∉ s.toList := fun mem => by simp [h c mem] at hc

/-! ### Reading fields back -/

theorem append_cons_inj {a a' r r' : List Char} {c : Char} (ha : c ∉ a) (ha' : c ∉ a')
    (h : a ++ c :: r = a' ++ c :: r') : a = a' ∧ r = r' := by
  induction a generalizing a' with
  | nil =>
    cases a' with
    | nil => exact ⟨rfl, List.cons.inj h |>.2⟩
    | cons y ys =>
      have ⟨first, _⟩ := List.cons.inj h
      exact absurd (first ▸ List.mem_cons_self) ha'
  | cons x xs ih =>
    cases a' with
    | nil =>
      have ⟨first, _⟩ := List.cons.inj h
      exact absurd (first ▸ List.mem_cons_self) ha
    | cons y ys =>
      have ⟨first, rest⟩ := List.cons.inj h
      have ⟨same, tail⟩ := ih (fun mem => ha (List.mem_cons_of_mem _ mem))
        (fun mem => ha' (List.mem_cons_of_mem _ mem)) rest
      exact ⟨first ▸ same ▸ rfl, tail⟩

theorem ValueText.not_mem {s : String} (h : ValueText s) {c : Char} (hc : valueChar c = false) :
    c ∉ s.toList := fun mem => by simp [h c mem] at hc

theorem ValueText.append_cons_eq_iff {s s' : String} (h : ValueText s) (h' : ValueText s')
    {c : Char} (hc : valueChar c = false) {r r' : List Char} :
    s.toList ++ c :: r = s'.toList ++ c :: r' ↔ s = s' ∧ r = r' := by
  constructor
  · intro same
    have ⟨texts, rest⟩ := append_cons_inj (h.not_mem hc) (h'.not_mem hc) same
    exact ⟨String.toList_inj.mp texts, rest⟩
  · rintro ⟨rfl, rfl⟩
    rfl

@[simp] theorem plainOfFloat_append_cons_eq_iff {x y : Float} {c : Char}
    (hc : valueChar c = false) {r r' : List Char} :
    (plainOfFloat x).toList ++ c :: r = (plainOfFloat y).toList ++ c :: r' ↔
      plainOfFloat x = plainOfFloat y ∧ r = r' :=
  (valueText_plainOfFloat x).append_cons_eq_iff (valueText_plainOfFloat y) hc

@[simp] theorem toString_uint32_append_cons_eq_iff {n m : UInt32} {c : Char}
    (hc : valueChar c = false) {r r' : List Char} :
    (toString n).toList ++ c :: r = (toString m).toList ++ c :: r' ↔ n = m ∧ r = r' := by
  rw [(valueText_toString_uint32 n).append_cons_eq_iff (valueText_toString_uint32 m) hc]
  have readBack : ∀ k : UInt32, Nat.ofDigitChars 10 (toString k).toList 0 = k.toNat := fun k => by
    show Nat.ofDigitChars 10 (toString k.toNat).toList 0 = k.toNat
    rw [Nat.toString_eq_ofList_toDigits, String.toList_ofList, Nat.ofDigitChars_ten_toDigits]
  constructor
  · rintro ⟨same, rest⟩
    refine ⟨UInt32.toNat_inj.mp ?_, rest⟩
    rw [← readBack n, ← readBack m, same]
  · rintro ⟨rfl, rfl⟩
    exact ⟨rfl, rfl⟩

@[simp] theorem toString_bool_append_cons_eq_iff {b b' : Bool} {c : Char}
    (hc : valueChar c = false) {r r' : List Char} :
    (toString b).toList ++ c :: r = (toString b').toList ++ c :: r' ↔ b = b' ∧ r = r' := by
  rw [(valueText_toString_bool b).append_cons_eq_iff (valueText_toString_bool b') hc]
  have apart : toString true ≠ toString false := by decide
  cases b <;> cases b' <;> simp [apart, apart.symm]

end CsgPreview.Decimal

namespace CsgPreview.Geometry

open Decimal

/-- Numbers that print apart: two of them print alike only when they are equal. -/
def PrintedApart (xs ys : List Float) : Prop :=
  ∀ x ∈ xs, ∀ y ∈ ys, plainOfFloat x = plainOfFloat y → x = y

namespace Primitive

def numbers : Primitive → List Float
  | .cube s _ => [s.x, s.y, s.z]
  | .sphere r _ => [r]
  | .cylinder h r1 r2 _ _ => [h, r1, r2]
  | .square s _ => [s.x, s.y]
  | .circle r _ => [r]

theorem describe_inj {p q : Primitive} (apart : PrintedApart p.numbers q.numbers)
    (same : p.describe = q.describe) : p = q := by
  -- read the two lines back field by field; lines of different primitives differ in their names
  cases p <;> cases q <;> dsimp only [describe] at same <;>
    have chars := congrArg String.toList same <;>
    simp (disch := decide) only [String.toList_append, String.reduceToList, List.append_assoc,
      List.cons_append, List.nil_append, List.cons.injEq, true_and, and_true, Char.reduceEq,
      false_and, plainOfFloat_append_cons_eq_iff, toString_uint32_append_cons_eq_iff,
      toString_bool_append_cons_eq_iff] at chars
  case cube.cube s c s' c' =>
    obtain ⟨hx, hy, hz, rfl⟩ := chars
    obtain ⟨x, y, z⟩ := s
    obtain ⟨x', y', z'⟩ := s'
    rw [apart x (by simp [numbers]) x' (by simp [numbers]) hx,
      apart y (by simp [numbers]) y' (by simp [numbers]) hy,
      apart z (by simp [numbers]) z' (by simp [numbers]) hz]
  case sphere.sphere r n r' n' =>
    obtain ⟨rfl, hr⟩ := chars
    rw [apart r (by simp [numbers]) r' (by simp [numbers]) hr]
  case cylinder.cylinder h r1 r2 c n h' r1' r2' c' n' =>
    obtain ⟨rfl, hh, hr1, hr2, rfl⟩ := chars
    rw [apart h (by simp [numbers]) h' (by simp [numbers]) hh,
      apart r1 (by simp [numbers]) r1' (by simp [numbers]) hr1,
      apart r2 (by simp [numbers]) r2' (by simp [numbers]) hr2]
  case square.square s c s' c' =>
    obtain ⟨hx, hy, rfl⟩ := chars
    obtain ⟨x, y⟩ := s
    obtain ⟨x', y'⟩ := s'
    rw [apart x (by simp [numbers]) x' (by simp [numbers]) hx,
      apart y (by simp [numbers]) y' (by simp [numbers]) hy]
  case circle.circle r n r' n' =>
    obtain ⟨rfl, hr⟩ := chars
    rw [apart r (by simp [numbers]) r' (by simp [numbers]) hr]

end Primitive

namespace Mat4

def entries (m : Mat4) : List Float :=
  [m.r0.x, m.r0.y, m.r0.z, m.r0.w, m.r1.x, m.r1.y, m.r1.z, m.r1.w,
    m.r2.x, m.r2.y, m.r2.z, m.r2.w, m.r3.x, m.r3.y, m.r3.z, m.r3.w]

theorem text_inj {m m' : Mat4} (apart : PrintedApart m.entries m'.entries)
    (same : m.text = m'.text) : m = m' := by
  have chars := congrArg String.toList same
  simp (disch := decide) only [text, List.map_cons, List.map_nil, String.intercalate_cons_cons,
    String.intercalate_singleton, String.toList_append, String.reduceToList, List.append_assoc,
    List.cons_append, List.nil_append, List.cons.injEq, true_and, and_true,
    plainOfFloat_append_cons_eq_iff] at chars
  obtain ⟨⟨a0, b0, c0, d0⟩, ⟨a1, b1, c1, d1⟩, ⟨a2, b2, c2, d2⟩, ⟨a3, b3, c3, d3⟩⟩ := m
  obtain ⟨⟨a0', b0', c0', d0'⟩, ⟨a1', b1', c1', d1'⟩, ⟨a2', b2', c2', d2'⟩,
    ⟨a3', b3', c3', d3'⟩⟩ := m'
  obtain ⟨e0, e1, e2, e3, e4, e5, e6, e7, e8, e9, e10, e11, e12, e13, e14, e15⟩ := chars
  simp only [Mat4.mk.injEq, Vec4.mk.injEq]
  refine ⟨⟨?_, ?_, ?_, ?_⟩, ⟨?_, ?_, ?_, ?_⟩, ⟨?_, ?_, ?_, ?_⟩, ⟨?_, ?_, ?_, ?_⟩⟩
  all_goals exact apart _ (by simp [entries]) _ (by simp [entries]) ‹_›

end Mat4

end CsgPreview.Geometry

namespace CsgPreview.Scene

open CsgPreview.Geometry CsgPreview.Decimal

/-- What a node does with its children's geometry: a primitive has its own, a transform moves
their union, and any other node combines them with its operation. -/
inductive NodeRole where
  | primitive (p : Primitive)
  | transform (m : Mat4)
  | combine (op : BooleanOp)

namespace NodeKind

def role : NodeKind → NodeRole
  | .primitive p => .primitive p
  | .transform m => .transform m
  | kind => .combine kind.combineOp

def numbers : NodeKind → List Float
  | .primitive p => p.numbers
  | .transform m => m.entries
  | _ => []

theorem role_eq_of_describe_eq {k k' : NodeKind} (inner : k.isLeaf = false)
    (inner' : k'.isLeaf = false) (apart : PrintedApart k.numbers k'.numbers)
    (same : k.describe = k'.describe) : k.role = k'.role := by
  cases k <;> cases k' <;> simp only [isLeaf, Bool.true_eq_false] at inner inner' <;>
    dsimp only [describe] at same <;>
    have chars := congrArg String.toList same <;>
    simp only [String.toList_append, String.reduceToList, List.cons_append, List.nil_append,
      List.cons.injEq, true_and, Char.reduceEq, false_and, List.append_left_inj,
      String.toList_inj] at chars <;>
    simp only [role, combineOp]
  case transform.transform m m' => rw [Mat4.text_inj apart chars]


theorem lineText_describe (k : NodeKind) : LineText k.describe := by
  have vector : ∀ {l : List String}, (∀ s ∈ l, ValueText s) →
      LineText ("[" ++ ", ".intercalate l ++ "]") := fun h =>
    ((lineText_literal (by decide)).append
      (LineText.intercalate (lineText_literal (by decide)) fun s mem => (h s mem).lineText)).append
      (lineText_literal (by decide))
  cases k with
  | transform m =>
    refine ((lineText_literal (by decide)).append ?_).append (lineText_literal (by decide))
    refine ((lineText_literal (by decide)).append
      (LineText.intercalate (lineText_literal (by decide)) fun s mem => ?_)).append
      (lineText_literal (by decide))
    obtain ⟨r, -, rfl⟩ := List.mem_map.mp mem
    exact vector fun s mem => by
      obtain ⟨x, -, rfl⟩ := List.mem_map.mp mem
      exact valueText_plainOfFloat x
  | color c =>
    exact ((lineText_literal (by decide)).append (vector fun s mem => by
      obtain ⟨x, -, rfl⟩ := List.mem_map.mp mem
      exact valueText_plainOfFloat32 x)).append (lineText_literal (by decide))
  | primitive p =>
    rw [lineText_iff]
    cases p <;> dsimp only [describe, Primitive.describe] <;>
      simp +decide only [String.toList_append, List.all_append, Bool.and_eq_true,
        (valueText_plainOfFloat _).all_lineChar, (valueText_toString_uint32 _).all_lineChar,
        (valueText_toString_bool _).all_lineChar]
  | _ => exact lineText_literal (by decide)

end NodeKind

end CsgPreview.Scene
