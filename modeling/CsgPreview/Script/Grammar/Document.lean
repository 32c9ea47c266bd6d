import CsgPreview.Script.Grammar.Expression

/-!
Documents of the grammar: a sequence of statements, each an `include <file>`, a `use <file>`,
a module definition, an assignment, a module call, a block `{ ... }` or a lone `;`.

A block only groups: its statements count as statements of the scope it stands in, and a lone
`;` stands for nothing, so the parser hands on a flat list. Include and use statements are kept
with the file name and where they stand; reading the files is the loader's work.

Statements nest only after an opening mark was read (a `{`, a call's parentheses, a module
header), so a depth budget of one more than the length of the text is never used up.
-/

namespace CsgPreview.Script.Grammar

/-- A statement as written, before included files are read. An include or use keeps the
character position it starts at, a call the byte offset it starts at. -/
inductive Statement where
  | include (file : String) (position : Nat)
  | use (file : String) (position : Nat)
  | define (name : String) (parameters : List Parameter) (body : List Statement)
  | assign (assignment : Assignment)
  | call (modifiers : Modifiers) (name : String) (arguments : List Argument)
      (children : List Statement) (position : Nat)

/-- `include <file> ;?` or `use <file> ;?`: the keyword, the file reference, and an optional
semicolon. The file name is taken without the blanks around it. -/
def fileStatement (src : Source) (rule : Rule) (keyword : String) (p : Nat) (t : Attempts) :
    Outcome String :=
  withRule rule p t fun t =>
    match src.literal? p keyword with
    | none => .fail t
    | some q =>
      match token .fileRef src.fileRef? (src.skip q) t with
      | .fail t => .fail t
      | .ok file r t =>
        let r' := src.skip r
        .ok (Text.trim file) ((src.literal? r' ";").getD r') t

def parameter (src : Source) (p : Nat) (t : Attempts) : Outcome Parameter :=
  withRule .parameter p t fun t =>
    match token .ident src.name? p t with
    | .fail t => .fail t
    | .ok name j t =>
      let k := src.skip j
      match src.literal? k "=" with
      | none => .ok ⟨name, none⟩ k t
      | some q =>
        match expr src (src.size + 1) (src.skip q) t with
        | .fail t => .ok ⟨name, none⟩ k t
        | .ok e m t => .ok ⟨name, some e⟩ m t

def parameterTail (src : Source) (start fallback : Nat) (t : Attempts) :
    List Parameter × Nat × Attempts :=
  match src.literal? start "," with
  | none => ([], fallback, t)
  | some c =>
    match parameter src (src.skip c) t with
    | .fail t => ([], fallback, t)
    | .ok a m t =>
      if _h : fallback < m ∧ m ≤ src.size then
        let (rest, e, t) := parameterTail src (src.skip m) m t
        (a :: rest, e, t)
      else ([a], m, t)
termination_by src.size - fallback

def parameters (src : Source) (p : Nat) (t : Attempts) : Outcome (List Parameter) :=
  withRule .parameters p t fun t =>
    match parameter src p t with
    | .fail t => .fail t
    | .ok a j t =>
      let k := src.skip j
      let (rest, e, t) := parameterTail src k k t
      let e' := src.skip e
      .ok (a :: rest) ((src.literal? e' ",").getD e') t

def assignment (src : Source) (p : Nat) (t : Attempts) : Outcome Assignment :=
  withRule .assignment p t fun t =>
    match token .ident src.name? p t with
    | .fail t => .fail t
    | .ok name j t =>
      match src.literal? (src.skip j) "=" with
      | none => .fail t
      | some k =>
        let k' := src.skip k
        if (src.literal? k' "=").isSome then .fail t
        else
          match expr src (src.size + 1) k' t with
          | .fail t => .fail t
          | .ok e m t =>
            match src.literal? (src.skip m) ";" with
            | none => .fail t
            | some q => .ok ⟨name, e⟩ q t

def modifierMarks (src : Source) (start fallback : Nat) (t : Attempts) :
    List Char × Nat × Attempts :=
  match token .modifier (fun p => src.oneOf? p [("!", '!'), ("%", '%'), ("#", '#'), ("*", '*')])
      start t with
  | .fail t => ([], fallback, t)
  | .ok c m t =>
    if _h : fallback < m ∧ m ≤ src.size then
      let (rest, e, t) := modifierMarks src (src.skip m) m t
      (c :: rest, e, t)
    else ([c], m, t)
termination_by src.size - fallback

mutual

def statements (src : Source) (d p : Nat) (t : Attempts) : List Statement × Nat × Attempts :=
  match statement src d p t with
  | .fail t => ([], p, t)
  | .ok s j t =>
    let (rest, e, t) := statementTail src d (src.skip j) j t
    (s ++ rest, e, t)
termination_by src.descent d 32 0
decreasing_by all_goals exact src.descent_lt (by omega)

def statementTail (src : Source) (d start fallback : Nat) (t : Attempts) :
    List Statement × Nat × Attempts :=
  match statement src d start t with
  | .fail t => ([], fallback, t)
  | .ok s m t =>
    if _h : fallback < m ∧ m ≤ src.size then
      let (rest, e, t) := statementTail src d (src.skip m) m t
      (s ++ rest, e, t)
    else (s, m, t)
termination_by src.descent d 31 (src.size - fallback)
decreasing_by all_goals exact src.descent_lt (by omega)

/-- One statement, tried as include, use, module definition, assignment, call, block and
`;` in this order. A block gives its statements, a `;` gives none. -/
def statement (src : Source) (d p : Nat) (t : Attempts) : Outcome (List Statement) :=
  ((fileStatement src .includeStmt "include" p t).map fun f => [.include f p]).orElse fun t =>
  ((fileStatement src .useStmt "use" p t).map fun f => [.use f p]).orElse fun t =>
  (moduleDef src d p t).orElse fun t =>
  ((assignment src p t).map fun a => [.assign a]).orElse fun t =>
  ((instantiation src d p t).map fun s => [s]).orElse fun t =>
  (block src d p t).orElse fun t =>
  (token .empty (fun p => (src.literal? p ";").map ((), ·)) p t).map fun _ => []
termination_by src.descent d 30 0
decreasing_by all_goals exact src.descent_lt (by omega)

def childStatement (src : Source) (d p : Nat) (t : Attempts) : Outcome (List Statement) :=
  withRule .childStatement p t fun t =>
    ((token .empty (fun p => (src.literal? p ";").map ((), ·)) p t).map fun _ => []).orElse
      fun t =>
    (block src d p t).orElse fun t =>
    (instantiation src d p t).map fun s => [s]
termination_by src.descent d 29 0
decreasing_by all_goals exact src.descent_lt (by omega)

def moduleDef (src : Source) (d p : Nat) (t : Attempts) : Outcome (List Statement) :=
  withRule .moduleDef p t fun t =>
    match token .kwModule (fun p => (src.keyword? p "module").map ((), ·)) p t with
    | .fail t => .fail t
    | .ok _ j t =>
      match token .ident src.name? (src.skip j) t with
      | .fail t => .fail t
      | .ok name k t =>
        match src.literal? (src.skip k) "(" with
        | none => .fail t
        | some q =>
          let q' := src.skip q
          let (params, r, t) := match parameters src q' t with
            | .ok ps r t => (ps, r, t)
            | .fail t => ([], q', t)
          match src.literal? (src.skip r) ")" with
          | none => .fail t
          | some e =>
            match d with
            | 0 => .fail t
            | d' + 1 =>
              match childStatement src d' (src.skip e) t with
              | .fail t => .fail t
              | .ok body m t => .ok [.define name params body] m t
termination_by src.descent d 28 0
decreasing_by all_goals exact src.descent_lt (by omega)

def instantiation (src : Source) (d p : Nat) (t : Attempts) : Outcome Statement :=
  withRule .instantiation p t fun t =>
    let (marks, j, t) := modifierMarks src p p t
    match token .ident src.name? (src.skip j) t with
    | .fail t => .fail t
    | .ok name k t =>
      match src.literal? (src.skip k) "(" with
      | none => .fail t
      | some q =>
        let q' := src.skip q
        let (args, r, t) := match arguments src (src.size + 1) q' t with
          | .ok args r t => (args, r, t)
          | .fail t => ([], q', t)
        match src.literal? (src.skip r) ")" with
        | none => .fail t
        | some e =>
          match d with
          | 0 => .fail t
          | d' + 1 =>
            match childStatement src d' (src.skip e) t with
            | .fail t => .fail t
            | .ok children m t =>
              .ok (.call (marks.foldl Modifiers.mark {}) name args children (src.byteAt p)) m t
termination_by src.descent d 27 0
decreasing_by all_goals exact src.descent_lt (by omega)

def block (src : Source) (d p : Nat) (t : Attempts) : Outcome (List Statement) :=
  withRule .block p t fun t =>
    match src.literal? p "\x7b" with
    | none => .fail t
    | some q =>
      match d with
      | 0 => .fail t
      | d' + 1 =>
        let (inner, r, t) := statements src d' (src.skip q) t
        match src.literal? (src.skip r) "\x7d" with
        | none => .fail t
        | some e => .ok inner e t
termination_by src.descent d 26 0
decreasing_by all_goals exact src.descent_lt (by omega)

end

def parseDocument (text : String) : Except Failure (Source × List Statement) :=
  let src := Source.ofString text
  let run : Outcome (List Statement) :=
    withRule .program 0 {} fun t =>
      let (stmts, j, t) := statements src (src.size + 1) (src.skip 0) t
      match token .eoi (fun p => if p == src.size then some ((), p) else none) (src.skip j) t with
      | .fail t => .fail t
      | .ok _ e t => .ok stmts e t
  match run with
  | .ok stmts _ _ => .ok (src, stmts)
  | .fail t => .error (src.failureAt t.position t.message)

end CsgPreview.Script.Grammar
