/-!
Groundwork of the parsing-expression grammar: rule names, the record of failed attempts that
becomes the error message, outcomes, the source text, and where a position lies (line and
column).

A failed rule is remembered only at the furthest position any rule failed at. When a rule fails
and the rules it tried inside failed at its own position more than once, those inner entries are
replaced by the rule itself; a single inner entry is kept as the more precise one. The message
lists the remembered rules in declaration order without repeats: `expected A`, `expected A or
B`, `expected A, B, or C`.
-/

namespace CsgPreview.Script.Grammar

/-- Rules of the grammar, in declaration order (end of input first). -/
inductive Rule where
  | eoi | whitespace | comment | program | statement | includeStmt | useStmt | fileRef
  | fileName | moduleDef | kwModule | parameters | parameter | assignment | instantiation
  | modifier | childStatement | block | empty | arguments | argument | namedArgument
  | identChar | ident | expr | ternary | logicOr | logicAnd | equality | comparison
  | additive | multiplicative | unary | postfixed | index | orOp | andOp | eqOp | cmpOp | addOp
  | mulOp | unaryOp | primary | number | boolean | undef | string | stringInner | call | range
  | vector | variableRef
  deriving Repr, DecidableEq, Inhabited

namespace Rule

def rank : Rule → Nat
  | eoi => 0 | whitespace => 1 | comment => 2 | program => 3 | statement => 4
  | includeStmt => 5 | useStmt => 6 | fileRef => 7 | fileName => 8 | moduleDef => 9
  | kwModule => 10 | parameters => 11 | parameter => 12 | assignment => 13
  | instantiation => 14 | modifier => 15 | childStatement => 16 | block => 17 | empty => 18
  | arguments => 19 | argument => 20 | namedArgument => 21 | identChar => 22 | ident => 23
  | expr => 24 | ternary => 25 | logicOr => 26 | logicAnd => 27 | equality => 28
  | comparison => 29 | additive => 30 | multiplicative => 31 | unary => 32 | postfixed => 33
  | index => 34 | orOp => 35 | andOp => 36 | eqOp => 37 | cmpOp => 38 | addOp => 39
  | mulOp => 40 | unaryOp => 41 | primary => 42 | number => 43 | boolean => 44 | undef => 45
  | string => 46 | stringInner => 47 | call => 48 | range => 49 | vector => 50 | variableRef => 51

def name : Rule → String
  | eoi => "EOI" | whitespace => "WHITESPACE" | comment => "COMMENT" | program => "program"
  | statement => "statement" | includeStmt => "include_stmt" | useStmt => "use_stmt"
  | fileRef => "file_ref" | fileName => "file_name" | moduleDef => "module_def"
  | kwModule => "kw_module" | parameters => "parameters" | parameter => "parameter"
  | assignment => "assignment" | instantiation => "instantiation" | modifier => "modifier"
  | childStatement => "child_statement" | block => "block" | empty => "empty"
  | arguments => "arguments" | argument => "argument" | namedArgument => "named_argument"
  | identChar => "ident_char" | ident => "ident" | expr => "expr" | ternary => "ternary"
  | logicOr => "logic_or" | logicAnd => "logic_and" | equality => "equality"
  | comparison => "comparison" | additive => "additive" | multiplicative => "multiplicative"
  | unary => "unary" | postfixed => "postfix" | index => "index" | orOp => "or_op"
  | andOp => "and_op" | eqOp => "eq_op" | cmpOp => "cmp_op" | addOp => "add_op"
  | mulOp => "mul_op" | unaryOp => "unary_op" | primary => "primary" | number => "number"
  | boolean => "boolean" | undef => "undef" | string => "string"
  | stringInner => "string_inner" | call => "call" | range => "range" | vector => "vector"
  | variableRef => "variable"

end Rule

/-- Rules that failed at the furthest position reached so far. -/
structure Attempts where
  position : Nat := 0
  rules : Array Rule := #[]
  deriving Inhabited

namespace Attempts

def countAt (a : Attempts) (p : Nat) : Nat :=
  if p == a.position then a.rules.size else 0

def markAt (a : Attempts) (p : Nat) : Nat :=
  if p == a.position then a.rules.size else 0

/-- Remember that `rule`, started at `p`, failed. `mark` and `before` are `markAt` and `countAt`
taken when the rule started. -/
def record (a : Attempts) (rule : Rule) (p mark before : Nat) : Attempts :=
  let now := a.countAt p
  if now > before && now - before == 1 then a
  else
    let a := if p == a.position then { a with rules := a.rules.extract 0 mark } else a
    let a := if p > a.position then { position := p, rules := #[] } else a
    if p == a.position then { a with rules := a.rules.push rule } else a

def insertRule (r : Rule) : List Rule → List Rule
  | [] => [r]
  | s :: rest =>
    if r.rank < s.rank then r :: s :: rest
    else if r.rank == s.rank then s :: rest
    else s :: insertRule r rest

def expected (a : Attempts) : List Rule :=
  a.rules.toList.foldr insertRule []

def joinNames : List String → String
  | [] => ""
  | [a] => a
  | [a, b] => a ++ " or " ++ b
  | names => ", ".intercalate names.dropLast ++ ", or " ++ names.getLast!

def message (a : Attempts) : String :=
  match a.expected with
  | [] => "unknown parsing error"
  | rules => "expected " ++ joinNames (rules.map Rule.name)

end Attempts

/-- Result of trying a rule: its value, where it ended and the attempts so far; or failure
with the attempts so far. -/
inductive Outcome (α : Type) where
  | ok (value : α) (next : Nat) (attempts : Attempts)
  | fail (attempts : Attempts)
  deriving Inhabited

namespace Outcome

def map (f : α → β) : Outcome α → Outcome β
  | ok v n t => ok (f v) n t
  | fail t => fail t

def orElse (o : Outcome α) (k : Attempts → Outcome α) : Outcome α :=
  match o with
  | ok v n t => ok v n t
  | fail t => k t

end Outcome

@[inline] def withRule (rule : Rule) (p : Nat) (t : Attempts) (body : Attempts → Outcome α) :
    Outcome α :=
  let mark := t.markAt p
  let before := t.countAt p
  match body t with
  | .ok v n t' => .ok v n t'
  | .fail t' => .fail (t'.record rule p mark before)

/-- Source text as characters, with the byte offset of every character position. -/
structure Source where
  chars : Array Char
  offsets : Array Nat

def byteOffsets (cs : List Char) : Array Nat :=
  (cs.foldl (fun (acc : Array Nat × Nat) c => (acc.1.push acc.2, acc.2 + c.utf8Size))
    (#[], 0)) |> fun (arr, total) => arr.push total

def Source.ofString (s : String) : Source :=
  ⟨s.toList.toArray, byteOffsets s.toList⟩

namespace Source

def size (src : Source) : Nat := src.chars.size

def get? (src : Source) (i : Nat) : Option Char := src.chars[i]?

def byteAt (src : Source) (i : Nat) : Nat := src.offsets[i]?.getD 0

def slice (src : Source) (i j : Nat) : String :=
  String.ofList ((src.chars.extract i j).toList)

/-- Line and column (both from 1, the column in characters) of a character position;
a carriage return directly before a line feed ends the line with it. -/
def lineColumn (src : Source) (i : Nat) : Nat × Nat :=
  let rec go : List Char → Nat → Nat × Nat → Nat × Nat
    | _, 0, lc => lc
    | [], _, lc => lc
    | '\r' :: '\n' :: rest, n + 1, (l, _) =>
      match n with
      | 0 => (l + 1, 1)
      | m + 1 => go rest m (l + 1, 1)
    | '\n' :: rest, n + 1, (l, _) => go rest n (l + 1, 1)
    | _ :: rest, n + 1, (l, c) => go rest n (l, c + 1)
  go src.chars.toList i (1, 1)

/-- What the mutually recursive rules descend by, read as three digits: the depth budget, then
the rule's rank (at most 60 where the depth drops), then the text left after the position a
repeated rule falls back to. A single number, so that parsing evaluates in the kernel. -/
def descent (src : Source) (depth rank rest : Nat) : Nat :=
  (depth * 61 + rank) * (src.size + 1) + rest

-- a smaller leading part wins whatever the text left, which stays below one step of it
theorem descent_lt_of_lead {src : Source} {a b n n' : Nat} (lead : a < b) (rest : n' ≤ src.size) :
    a * (src.size + 1) + n' < b * (src.size + 1) + n := by
  have step : (a + 1) * (src.size + 1) ≤ b * (src.size + 1) := Nat.mul_le_mul_right _ lead
  rw [Nat.add_mul, Nat.one_mul] at step
  omega

theorem descent_lt (src : Source) {d d' k k' n n' : Nat}
    (h : d' < d ∧ k' ≤ 60 ∧ n' ≤ src.size ∨ d' = d ∧ k' < k ∧ n' ≤ src.size ∨
      d' = d ∧ k' = k ∧ n' < n) :
    src.descent d' k' n' < src.descent d k n := by
  unfold descent
  rcases h with ⟨shallower, rank, rest⟩ | ⟨rfl, lower, rest⟩ | ⟨rfl, rfl, less⟩
  · exact descent_lt_of_lead (by omega) rest
  · exact descent_lt_of_lead (by omega) rest
  · omega

end Source

/-- A parse failure at a byte offset, with its line and column. -/
structure Failure where
  position : Nat
  line : Nat
  column : Nat
  message : String
  deriving Repr, Inhabited

def Failure.text (f : Failure) : String :=
  "line " ++ toString f.line ++ ", column " ++ toString f.column ++ ": " ++ f.message

def Source.failureAt (src : Source) (i : Nat) (message : String) : Failure :=
  let (l, c) := src.lineColumn i
  ⟨src.byteAt i, l, c, message⟩

end CsgPreview.Script.Grammar
