import Mathlib
import CsgPreview.Proofs.Scene.DumpLine
import CsgPreview.Proofs.Scene.Solid

/-!
What a subtree key says.

Keys are computed from the last node to the first, and every child lies after its parent, so a
node's key is made from the final keys of its children. A leaf's key is its dump line and `;`.
An inner node's key is its line, `#` and the first 16 bytes of the digest of its line followed by
a line break and the key of each drawn child, in hexadecimal.

No line and no key holds a line break, and only inner keys hold a `#`. So equal keys belong to two
leaves or to two inner nodes, and their lines are equal. Inner nodes with equal keys have hashed
texts with equal digests; where the digest tells those texts apart, their drawn children have
equal keys one by one. Where the numbers of the lines print apart, equal keys belong to nodes
that do the same with their children.
-/

namespace CsgPreview.Scene

open CsgPreview.Decimal CsgPreview.Geometry

def digestPrefix (s : String) : List UInt8 := (Digest.sha256 s.toUTF8.toList).take 16

def hexText (bytes : List UInt8) : String := String.join (bytes.map Digest.hexByte)

/-- The key of node `index`, given the keys of the other nodes: the body of the key
computation. -/
def keyStep (nodes : Array SceneNode) (keys : Array String) (index : Nat) : String :=
  let n := nodes[index]!
  let line := n.kind.describe
  if n.kind.isLeaf then line ++ ";"
  else
    let parts := n.children.filterMap fun c =>
      let m := (nodes[c]!).modifiers
      if m.disabled || m.background then none else some ("\n" ++ keys[c]!)
    let digest := Digest.sha256 (String.join (line :: parts)).toUTF8.toList
    line ++ "#" ++ String.join ((digest.take 16).map Digest.hexByte)

theorem subtreeKeys_eq_foldl (nodes : Array SceneNode) :
    subtreeKeys nodes = (List.range nodes.size).reverse.foldl
      (fun keys index => keys.set! index (keyStep nodes keys index))
      (Array.replicate nodes.size "") := rfl

/-! ### Hexadecimal digits -/

theorem toList_hexByte (b : UInt8) :
    (Digest.hexByte b).toList =
      [if b.toNat / 16 < 10 then Char.ofNat (48 + b.toNat / 16) else Char.ofNat (87 + b.toNat / 16),
        if b.toNat % 16 < 10 then Char.ofNat (48 + b.toNat % 16)
        else Char.ofNat (87 + b.toNat % 16)] := by
  simp [Digest.hexByte]

private def hexDigitOf (n : Nat) : Char :=
  if n < 10 then Char.ofNat (48 + n) else Char.ofNat (87 + n)

private theorem hexDigitOf_inj : ∀ a b : Fin 16, hexDigitOf a = hexDigitOf b → a = b := by
  decide

private theorem valueChar_hexDigitOf : ∀ a : Fin 16, valueChar (hexDigitOf a) = true := by
  decide

theorem hexByte_inj {b b' : UInt8} (h : Digest.hexByte b = Digest.hexByte b') : b = b' := by
  have chars := congrArg String.toList h
  rw [toList_hexByte, toList_hexByte] at chars
  simp only [List.cons.injEq, and_true] at chars
  have small : b.toNat < 256 := b.toNat_lt_size
  have small' : b'.toNat < 256 := b'.toNat_lt_size
  have high := hexDigitOf_inj ⟨b.toNat / 16, by omega⟩ ⟨b'.toNat / 16, by omega⟩ chars.1
  have low := hexDigitOf_inj ⟨b.toNat % 16, by omega⟩ ⟨b'.toNat % 16, by omega⟩ chars.2
  simp only [Fin.mk.injEq] at high low
  apply UInt8.toNat_inj.mp
  omega

theorem length_hexByte (b : UInt8) : (Digest.hexByte b).toList.length = 2 := by
  rw [toList_hexByte]
  rfl

theorem valueText_hexByte (b : UInt8) : ValueText (Digest.hexByte b) := by
  intro c mem
  rw [toList_hexByte] at mem
  simp only [List.mem_cons, List.not_mem_nil, or_false] at mem
  have small : b.toNat < 256 := b.toNat_lt_size
  rcases mem with rfl | rfl
  · exact valueChar_hexDigitOf ⟨b.toNat / 16, by omega⟩
  · exact valueChar_hexDigitOf ⟨b.toNat % 16, by omega⟩

theorem hexText_inj : ∀ {bytes bytes' : List UInt8}, hexText bytes = hexText bytes' →
    bytes = bytes'
  | [], [], _ => rfl
  | [], b :: _, h => by
    have := congrArg (·.toList.length) h
    simp [hexText, length_hexByte] at this
    omega
  | b :: _, [], h => by
    have := congrArg (·.toList.length) h
    simp [hexText, length_hexByte] at this
  | b :: rest, b' :: rest', h => by
    have chars := congrArg String.toList h
    simp only [hexText, List.map_cons, String.join_cons, String.toList_append] at chars
    -- every byte takes two digits, so the first two digits are the first byte
    have ⟨first, others⟩ := List.append_inj chars (by rw [length_hexByte, length_hexByte])
    have rest_eq : rest = rest' :=
      hexText_inj (String.toList_inj.mp (by simpa [hexText] using others))
    rw [hexByte_inj (String.toList_inj.mp first), rest_eq]

theorem lineText_hexText (bytes : List UInt8) : LineText (hexText bytes) := by
  intro c mem
  simp only [hexText, String.toList_join, List.mem_flatMap, List.mem_map] at mem
  obtain ⟨s, ⟨b, -, rfl⟩, mem⟩ := mem
  exact (valueText_hexByte b).lineText c mem

/-! ### The key computation -/

theorem keyStep_congr {nodes : Array SceneNode} {keys keys' : Array String} {i : Nat}
    (same : ∀ c ∈ (nodes[i]!).children, keys[c]! = keys'[c]!) :
    keyStep nodes keys i = keyStep nodes keys' i := by
  unfold keyStep
  dsimp only
  split
  · rfl
  · congr 9
    refine List.filterMap_congr fun c mem => ?_
    rw [same c mem]

theorem filterMap_ite_none {α β : Type} (p : α → Bool) (f : α → β) (l : List α) :
    l.filterMap (fun a => if p a = true then none else some (f a)) =
      (l.filter fun a => !p a).map f := by
  induction l with
  | nil => rfl
  | cons a l ih => by_cases h : p a <;> simp [h, ih]

namespace SceneTree

variable {t : SceneTree}

/-- The keys of the tree are the subtree keys of its nodes, as in every tree built from a
design. -/
def KeysComputed (t : SceneTree) : Prop := t.keys = subtreeKeys t.nodes

theorem keysComputed_ofBuilt (top : Built) (log : Array LogRecord) :
    ((ofBuilt top).run log).run.1.KeysComputed := by
  unfold ofBuilt
  dsimp only
  split <;> rfl

/-- The keys from index `m` on are what the key step makes of the keys. -/
def KeysFrom (t : SceneTree) (keys : Array String) (m : Nat) : Prop :=
  keys.size = t.nodes.size ∧ ∀ i, m ≤ i → i < t.nodes.size → keys[i]! = keyStep t.nodes keys i

theorem KeysFrom.set (wf : t.WellFormed) {keys : Array String} {m : Nat}
    (hm : m < t.nodes.size) (h : t.KeysFrom keys (m + 1)) :
    t.KeysFrom (keys.set! m (keyStep t.nodes keys m)) m := by
  obtain ⟨size, computed⟩ := h
  have unchanged : ∀ i, m ≤ i → i < t.nodes.size →
      keyStep t.nodes (keys.set! m (keyStep t.nodes keys m)) i = keyStep t.nodes keys i := by
    intro i hmi hi
    refine keyStep_congr fun c mem => ?_
    have after := wf.parent_lt_child i hi c mem
    exact Array.getElem!_set!_ne keys m c _ (by omega)
  refine ⟨by rw [Array.size_set!, size], fun i hmi hi => ?_⟩
  rw [unchanged i hmi hi]
  rcases Nat.eq_or_lt_of_le hmi with rfl | after
  · exact Array.getElem!_set!_self keys m _ (by omega)
  · rw [Array.getElem!_set!_ne keys m i _ (by omega)]
    exact computed i after hi

theorem KeysFrom.foldl (wf : t.WellFormed) :
    ∀ m, m ≤ t.nodes.size → ∀ keys, t.KeysFrom keys m →
      t.KeysFrom ((List.range m).reverse.foldl
        (fun keys index => keys.set! index (keyStep t.nodes keys index)) keys) 0
  | 0, _, _, h => h
  | m + 1, hm, keys, h => by
    simp only [List.range_succ, List.reverse_append, List.reverse_singleton, List.singleton_append,
      List.foldl_cons]
    exact KeysFrom.foldl wf m (by omega) _ (h.set wf (by omega))

theorem key_eq_keyStep (wf : t.WellFormed) (computed : t.KeysComputed) {i : Nat}
    (hi : i < t.nodes.size) : t.key i = keyStep t.nodes t.keys i := by
  have start : t.KeysFrom (Array.replicate t.nodes.size "") t.nodes.size :=
    ⟨Array.size_replicate, fun i early late => absurd late (by omega)⟩
  have keys := KeysFrom.foldl wf t.nodes.size le_rfl _ start
  rw [← subtreeKeys_eq_foldl, ← computed] at keys
  exact keys.2 i (Nat.zero_le i) hi

/-! Every round sets one key, and a leaf's key does not read the others, so a leaf's key is its
line and `;` in any tree with its keys computed, well formed or not. -/

theorem foldl_keys_of_not_mem (nodes : Array SceneNode) {i : Nat} :
    ∀ (indices : List Nat) (keys : Array String), i ∉ indices →
      (indices.foldl (fun keys index => keys.set! index (keyStep nodes keys index)) keys)[i]! =
        keys[i]!
  | [], _, _ => rfl
  | j :: rest, keys, out => by
    rw [List.foldl_cons,
      foldl_keys_of_not_mem nodes rest _ fun mem => out (List.mem_cons_of_mem _ mem)]
    exact Array.getElem!_set!_ne keys j i _ fun same => out (same ▸ List.mem_cons_self)

theorem foldl_keys_of_isLeaf (nodes : Array SceneNode) {i : Nat}
    (leaf : (nodes[i]!).kind.isLeaf = true) :
    ∀ (indices : List Nat) (keys : Array String), indices.Nodup → i ∈ indices → i < keys.size →
      (indices.foldl (fun keys index => keys.set! index (keyStep nodes keys index)) keys)[i]! =
        (nodes[i]!).kind.describe ++ ";"
  | [], _, _, mem, _ => absurd mem List.not_mem_nil
  | j :: rest, keys, nodup, mem, hi => by
    rw [List.foldl_cons]
    obtain ⟨out, nodup⟩ := List.nodup_cons.mp nodup
    by_cases same : j = i
    · subst same
      rw [foldl_keys_of_not_mem nodes rest _ out, Array.getElem!_set!_self keys j _ hi]
      simp [keyStep, leaf]
    · exact foldl_keys_of_isLeaf nodes leaf rest _ nodup
        ((List.mem_cons.mp mem).resolve_left (Ne.symm same)) (by rw [Array.size_set!]; exact hi)

theorem key_of_isLeaf (computed : t.KeysComputed) {i : Nat} (hi : i < t.nodes.size)
    (leaf : (t.node i).kind.isLeaf = true) : t.key i = (t.node i).kind.describe ++ ";" := by
  unfold SceneTree.key
  rw [computed, subtreeKeys_eq_foldl]
  exact foldl_keys_of_isLeaf t.nodes leaf _ _ (List.nodup_reverse.mpr List.nodup_range)
    (List.mem_reverse.mpr (List.mem_range.mpr hi)) (by simpa using hi)

theorem key_of_primitive (computed : t.KeysComputed) {i : Nat} {p : Geometry.Primitive}
    (hk : (t.node i).kind = .primitive p) : t.key i = p.describe ++ ";" := by
  rw [key_of_isLeaf computed (lt_of_kind_eq_primitive hk) (by rw [hk]; rfl), hk]
  rfl

/-- The text whose digest an inner node's key carries: the node's line, then a line break and
the key of each drawn child. -/
def hashedText (t : SceneTree) (i : Nat) : String :=
  String.join ((t.node i).kind.describe :: (t.renderedChildren i).map fun c => "\n" ++ t.key c)

section Computed

variable (wf : t.WellFormed) (computed : t.KeysComputed)
include wf computed

theorem key_of_not_isLeaf {i : Nat} (hi : i < t.nodes.size)
    (inner : (t.node i).kind.isLeaf = false) :
    t.key i = (t.node i).kind.describe ++ "#" ++ hexText (digestPrefix (t.hashedText i)) := by
  rw [key_eq_keyStep wf computed hi]
  simp only [keyStep, node] at inner ⊢
  simp only [inner, Bool.false_eq_true, ↓reduceIte, filterMap_ite_none]
  rfl

theorem isLeaf_iff_hash_not_mem {i : Nat} (hi : i < t.nodes.size) :
    (t.node i).kind.isLeaf = true ↔ '#' ∉ (t.key i).toList := by
  have line : '#' ∉ (t.node i).kind.describe.toList :=
    (NodeKind.lineText_describe _).not_mem (by decide)
  cases leaf : (t.node i).kind.isLeaf
  · rw [key_of_not_isLeaf wf computed hi leaf]
    simp [String.toList_append]
  · rw [key_of_isLeaf computed hi leaf]
    simp [String.toList_append, line]

theorem newline_not_mem_key {i : Nat} (hi : i < t.nodes.size) : '\n' ∉ (t.key i).toList := by
  have line : '\n' ∉ (t.node i).kind.describe.toList :=
    (NodeKind.lineText_describe _).not_mem (by decide)
  cases leaf : (t.node i).kind.isLeaf
  · have digits : '\n' ∉ (hexText (digestPrefix (t.hashedText i))).toList :=
      (lineText_hexText _).not_mem (by decide)
    rw [key_of_not_isLeaf wf computed hi leaf]
    simp [String.toList_append, line, digits]
  · rw [key_of_isLeaf computed hi leaf]
    simp [String.toList_append, line]

end Computed

end SceneTree

/-! ### Reading keys back -/

theorem LineText.append_sep_inj {l l' r r' sep : String} {c : Char} (hsep : sep.toList = [c])
    (hc : lineChar c = false) (hl : LineText l) (hl' : LineText l')
    (same : l ++ sep ++ r = l' ++ sep ++ r') : l = l' ∧ r = r' := by
  have chars := congrArg String.toList same
  simp only [String.toList_append, hsep, List.append_assoc, List.singleton_append] at chars
  obtain ⟨lines, rests⟩ := append_cons_inj (hl.not_mem hc) (hl'.not_mem hc) chars
  exact ⟨String.toList_inj.mp lines, String.toList_inj.mp rests⟩

theorem append_lines_inj {α β : Type} {f : α → List Char} {g : β → List Char}
    {cs : List α} {cs' : List β} {l l' : List Char} (hl : '\n' ∉ l) (hl' : '\n' ∉ l')
    (hf : ∀ c ∈ cs, '\n' ∉ f c) (hg : ∀ c ∈ cs', '\n' ∉ g c)
    (same : l ++ cs.flatMap (fun c => '\n' :: f c) = l' ++ cs'.flatMap (fun c => '\n' :: g c)) :
    l = l' ∧ List.Forall₂ (fun a b => f a = g b) cs cs' := by
  induction cs generalizing l l' cs' with
  | nil =>
    cases cs' with
    | nil => exact ⟨by simpa using same, .nil⟩
    | cons c' rest' =>
      simp only [List.flatMap_nil, List.append_nil, List.flatMap_cons] at same
      exact absurd (by simp [same]) hl
  | cons c rest ih =>
    cases cs' with
    | nil =>
      simp only [List.flatMap_nil, List.append_nil, List.flatMap_cons] at same
      exact absurd (by simp [← same]) hl'
    | cons c' rest' =>
      simp only [List.flatMap_cons, List.cons_append] at same
      obtain ⟨lines, later⟩ := append_cons_inj hl hl' same
      obtain ⟨first, others⟩ := ih (hf c List.mem_cons_self) (hg c' List.mem_cons_self)
        (fun a mem => hf a (List.mem_cons_of_mem _ mem))
        (fun b mem => hg b (List.mem_cons_of_mem _ mem)) later
      exact ⟨lines, .cons first others⟩

namespace SceneTree

variable {t t' : SceneTree}

theorem hashedText_inj (wf : t.WellFormed) (wf' : t'.WellFormed) (computed : t.KeysComputed)
    (computed' : t'.KeysComputed) {i j : Nat} (hi : i < t.nodes.size) (hj : j < t'.nodes.size)
    (same : t.hashedText i = t'.hashedText j) :
    (t.node i).kind.describe = (t'.node j).kind.describe ∧
      List.Forall₂ (fun a b => t.key a = t'.key b) (t.renderedChildren i) (t'.renderedChildren j) := by
  have chars := congrArg String.toList same
  simp only [hashedText, String.toList_join, List.flatMap_cons, List.flatMap_map,
    String.toList_append, String.reduceToList, List.singleton_append] at chars
  obtain ⟨lines, keys⟩ := append_lines_inj
    ((NodeKind.lineText_describe _).not_mem (by decide))
    ((NodeKind.lineText_describe _).not_mem (by decide))
    (fun c mem => newline_not_mem_key wf computed (lt_of_mem_renderedChildren wf hi mem))
    (fun c mem => newline_not_mem_key wf' computed' (lt_of_mem_renderedChildren wf' hj mem)) chars
  exact ⟨String.toList_inj.mp lines, keys.imp fun _ _ => String.toList_inj.mp⟩


section Keys

variable (wf : t.WellFormed) (wf' : t'.WellFormed) (computed : t.KeysComputed)
  (computed' : t'.KeysComputed)
include wf wf' computed computed'

theorem isLeaf_eq_of_key_eq {i j : Nat} (hi : i < t.nodes.size) (hj : j < t'.nodes.size)
    (same : t.key i = t'.key j) : (t.node i).kind.isLeaf = (t'.node j).kind.isLeaf := by
  rw [Bool.eq_iff_iff, isLeaf_iff_hash_not_mem wf computed hi,
    isLeaf_iff_hash_not_mem wf' computed' hj, same]

theorem describe_eq_of_key_eq {i j : Nat} (hi : i < t.nodes.size) (hj : j < t'.nodes.size)
    (same : t.key i = t'.key j) : (t.node i).kind.describe = (t'.node j).kind.describe := by
  have leaves := isLeaf_eq_of_key_eq wf wf' computed computed' hi hj same
  cases leaf : (t.node i).kind.isLeaf
  case false =>
    rw [key_of_not_isLeaf wf computed hi leaf,
      key_of_not_isLeaf wf' computed' hj (leaves ▸ leaf)] at same
    exact (LineText.append_sep_inj (c := '#') rfl (by decide) (NodeKind.lineText_describe _)
      (NodeKind.lineText_describe _) same).1
  case true =>
    rw [key_of_isLeaf computed hi leaf, key_of_isLeaf computed' hj (leaves ▸ leaf)] at same
    simpa [String.toList_append, String.toList_inj] using congrArg String.toList same

end Keys

end SceneTree

theorem NodeKind.role_eq_of_describe_eq_of_isLeaf {k k' : NodeKind} (leaf : k.isLeaf = true)
    (leaf' : k'.isLeaf = true) (apart : PrintedApart k.numbers k'.numbers)
    (same : k.describe = k'.describe) : k.role = k'.role := by
  cases k <;> cases k' <;> simp only [NodeKind.isLeaf, Bool.false_eq_true] at leaf leaf'
  case primitive.primitive p q =>
    rw [Primitive.describe_inj apart same]

/-- What telling the keys of drawn nodes apart rests on, over the trees `ts`: the first 16 bytes
of the digest of the text hashed for an inner node tell it from every other text hashed, and
the numbers on the lines of two nodes print apart. -/
structure KeysDecode (ts : List SceneTree) : Prop where
  digest : ∀ t ∈ ts, ∀ t' ∈ ts, ∀ i < t.nodes.size, ∀ j < t'.nodes.size,
    t.Rendered i → t'.Rendered j → (t.node i).kind.isLeaf = false →
      (t'.node j).kind.isLeaf = false →
      digestPrefix (t.hashedText i) = digestPrefix (t'.hashedText j) →
      t.hashedText i = t'.hashedText j
  numbers : ∀ t ∈ ts, ∀ t' ∈ ts, ∀ i < t.nodes.size, ∀ j < t'.nodes.size,
    t.Rendered i → t'.Rendered j → PrintedApart (t.node i).kind.numbers (t'.node j).kind.numbers

theorem KeysDecode.role_eq {ts : List SceneTree} (decode : KeysDecode ts) {t t' : SceneTree}
    (ht : t ∈ ts) (ht' : t' ∈ ts) (wf : t.WellFormed) (wf' : t'.WellFormed)
    (computed : t.KeysComputed) (computed' : t'.KeysComputed) {i j : Nat}
    (hi : i < t.nodes.size) (hj : j < t'.nodes.size) (ri : t.Rendered i) (rj : t'.Rendered j)
    (same : t.key i = t'.key j) :
    (t.node i).kind.role = (t'.node j).kind.role ∧ ((t.node i).kind.isLeaf = false →
      List.Forall₂ (fun a b => t.key a = t'.key b) (t.renderedChildren i) (t'.renderedChildren j)) := by
  have apart := decode.numbers t ht t' ht' i hi j hj ri rj
  have leaves := SceneTree.isLeaf_eq_of_key_eq wf wf' computed computed' hi hj same
  cases leaf : (t.node i).kind.isLeaf
  case false =>
    have leaf' := leaves ▸ leaf
    rw [SceneTree.key_of_not_isLeaf wf computed hi leaf,
      SceneTree.key_of_not_isLeaf wf' computed' hj leaf'] at same
    obtain ⟨lines, digits⟩ := LineText.append_sep_inj (c := '#') rfl (by decide)
      (NodeKind.lineText_describe _) (NodeKind.lineText_describe _) same
    have hashed := decode.digest t ht t' ht' i hi j hj ri rj leaf leaf' (hexText_inj digits)
    exact ⟨NodeKind.role_eq_of_describe_eq leaf leaf' apart lines,
      fun _ => (SceneTree.hashedText_inj wf wf' computed computed' hi hj hashed).2⟩
  case true =>
    have lines := SceneTree.describe_eq_of_key_eq wf wf' computed computed' hi hj same
    exact ⟨NodeKind.role_eq_of_describe_eq_of_isLeaf leaf (leaves ▸ leaf) apart lines, nofun⟩

end CsgPreview.Scene
