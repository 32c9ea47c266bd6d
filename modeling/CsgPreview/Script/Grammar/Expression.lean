import CsgPreview.Script.Grammar.Lexeme
import CsgPreview.Text.Blank

/-!
Expressions of the grammar, by precedence from loosest to tightest: the conditional `c ? a : b`,
`||`, `&&`, `==`/`!=`, comparisons, `+`/`-`, `*`/`/`/`%`, prefix `-`/`+`/`!`, and a primary
followed by any number of `[index]`. Binary operators group to the left.

Every function takes a depth budget that shrinks whenever a nested expression starts; a nested
expression starts only after an opening mark was read, so a budget of one more than the length of
the text is never used up. Blanks and comments may stand between any two tokens.
-/

namespace CsgPreview.Script.Grammar

def levelRule : Nat → Rule
  | 0 => .multiplicative | 1 => .additive | 2 => .comparison | 3 => .equality | 4 => .logicAnd
  | _ => .logicOr

def levelOpRule : Nat → Rule
  | 0 => .mulOp | 1 => .addOp | 2 => .cmpOp | 3 => .eqOp | 4 => .andOp | _ => .orOp

def levelOps : Nat → List (String × BinaryOp)
  | 0 => [("*", .mul), ("/", .div), ("%", .rem)]
  | 1 => [("+", .add), ("-", .sub)]
  | 2 => [("<=", .le), (">=", .ge), ("<", .lt), (">", .gt)]
  | 3 => [("==", .eq), ("!=", .ne)]
  | 4 => [("&&", .and)]
  | _ => [("||", .or)]

/-- A prefix operator; `+` leaves its operand alone. -/
inductive PrefixOp where
  | minus | plus | bang
  deriving Repr, DecidableEq

def applyPrefixes (ops : List PrefixOp) (e : Expr) : Expr :=
  ops.foldr (fun op acc => match op with
    | .minus => .unary .neg acc
    | .bang => .unary .not acc
    | .plus => acc) e

def prefixOps (src : Source) (start fallback : Nat) (t : Attempts) :
    List PrefixOp × Nat × Attempts :=
  match token .unaryOp (fun p => src.oneOf? p [("-", PrefixOp.minus), ("+", .plus), ("!", .bang)])
      start t with
  | .fail t => ([], fallback, t)
  | .ok op m t =>
    if _h : fallback < m ∧ m ≤ src.size then
      let (rest, e, t) := prefixOps src (src.skip m) m t
      (op :: rest, e, t)
    else ([op], m, t)
termination_by src.size - fallback

mutual

def expr (src : Source) (d p : Nat) (t : Attempts) : Outcome Expr :=
  withRule .expr p t fun t => ternary src d p t
termination_by src.descent d 60 0
decreasing_by all_goals exact src.descent_lt (by omega)

def ternary (src : Source) (d p : Nat) (t : Attempts) : Outcome Expr :=
  withRule .ternary p t fun t =>
    match chain src d 5 p t with
    | .fail t => .fail t
    | .ok c j t =>
      let k := src.skip j
      match d with
      | 0 => .ok c k t
      | d' + 1 =>
        match src.literal? k "?" with
        | none => .ok c k t
        | some k1 =>
          match expr src d' (src.skip k1) t with
          | .fail t => .ok c k t
          | .ok yes j2 t =>
            match src.literal? (src.skip j2) ":" with
            | none => .ok c k t
            | some k3 =>
              match expr src d' (src.skip k3) t with
              | .fail t => .ok c k t
              | .ok no j4 t => .ok (.ternary c yes no) j4 t
termination_by src.descent d 59 0
decreasing_by all_goals exact src.descent_lt (by omega)

def chain (src : Source) (d level p : Nat) (t : Attempts) : Outcome Expr :=
  withRule (levelRule level) p t fun t =>
    let first := match level with
      | 0 => unary src d p t
      | l + 1 => chain src d l p t
    match first with
    | .fail t => .fail t
    | .ok lhs j t =>
      let k := src.skip j
      let (e, m, t) := chainTail src d level lhs k k t
      .ok e m t
termination_by src.descent d (30 + 2 * level + 1) 0
decreasing_by all_goals exact src.descent_lt (by omega)

/-- Further `operator operand` pairs; a pair that does not complete leaves the end at
`fallback`. -/
def chainTail (src : Source) (d level : Nat) (lhs : Expr) (start fallback : Nat)
    (t : Attempts) : Expr × Nat × Attempts :=
  match token (levelOpRule level) (fun p => src.oneOf? p (levelOps level)) start t with
  | .fail t => (lhs, fallback, t)
  | .ok op q t =>
    let r := src.skip q
    let second := match level with
      | 0 => unary src d r t
      | l + 1 => chain src d l r t
    match second with
    | .fail t => (lhs, fallback, t)
    | .ok rhs m t =>
      if _h : fallback < m ∧ m ≤ src.size then
        chainTail src d level (.binary op lhs rhs) (src.skip m) m t
      else (.binary op lhs rhs, m, t)
termination_by src.descent d (30 + 2 * level) (src.size - fallback)
decreasing_by all_goals exact src.descent_lt (by omega)

def unary (src : Source) (d p : Nat) (t : Attempts) : Outcome Expr :=
  withRule .unary p t fun t =>
    let (ops, j, t) := prefixOps src p p t
    match postfixed src d (src.skip j) t with
    | .fail t => .fail t
    | .ok e m t => .ok (applyPrefixes ops e) m t
termination_by src.descent d 25 0
decreasing_by all_goals exact src.descent_lt (by omega)

def postfixed (src : Source) (d p : Nat) (t : Attempts) : Outcome Expr :=
  withRule .postfixed p t fun t =>
    match primary src d p t with
    | .fail t => .fail t
    | .ok base j t =>
      let k := src.skip j
      let (e, m, t) := indexLoop src d base k k t
      .ok e m t
termination_by src.descent d 24 0
decreasing_by all_goals exact src.descent_lt (by omega)

def indexLoop (src : Source) (d : Nat) (base : Expr) (start fallback : Nat) (t : Attempts) :
    Expr × Nat × Attempts :=
  match index src d start t with
  | .fail t => (base, fallback, t)
  | .ok ix m t =>
    if _h : fallback < m ∧ m ≤ src.size then indexLoop src d (.index base ix) (src.skip m) m t
    else (.index base ix, m, t)
termination_by src.descent d 23 (src.size - fallback)
decreasing_by all_goals exact src.descent_lt (by omega)

def index (src : Source) (d p : Nat) (t : Attempts) : Outcome Expr :=
  withRule .index p t fun t =>
    match src.literal? p "[" with
    | none => .fail t
    | some q =>
      match d with
      | 0 => .fail t
      | d' + 1 =>
        match expr src d' (src.skip q) t with
        | .fail t => .fail t
        | .ok e m t =>
          match src.literal? (src.skip m) "]" with
          | none => .fail t
          | some r => .ok e r t
termination_by src.descent d 22 0
decreasing_by all_goals exact src.descent_lt (by omega)

/-- Number, boolean, `undef`, string, call, range, vector, variable or parenthesized
expression, tried in this order. -/
def primary (src : Source) (d p : Nat) (t : Attempts) : Outcome Expr :=
  ((token .number src.number? p t).map Expr.number).orElse fun t =>
  ((token .boolean (fun p => (src.keyword? p "true").map (true, ·) <|>
      (src.keyword? p "false").map (false, ·)) p t).map Expr.bool).orElse fun t =>
  ((token .undef (fun p => (src.keyword? p "undef").map ((), ·)) p t).map
      fun _ => Expr.undef).orElse fun t =>
  ((token .string src.string? p t).map Expr.str).orElse fun t =>
  (call src d p t).orElse fun t =>
  (range src d p t).orElse fun t =>
  (vector src d p t).orElse fun t =>
  ((token .variableRef src.name? p t).map Expr.var).orElse fun t =>
  match src.literal? p "(" with
  | none => .fail t
  | some q =>
    match d with
    | 0 => .fail t
    | d' + 1 =>
      match expr src d' (src.skip q) t with
      | .fail t => .fail t
      | .ok e m t =>
        match src.literal? (src.skip m) ")" with
        | none => .fail t
        | some r => .ok e r t
termination_by src.descent d 21 0
decreasing_by all_goals exact src.descent_lt (by omega)

def call (src : Source) (d p : Nat) (t : Attempts) : Outcome Expr :=
  withRule .call p t fun t =>
    match token .ident src.name? p t with
    | .fail t => .fail t
    | .ok name j t =>
      match src.literal? (src.skip j) "(" with
      | none => .fail t
      | some k =>
        let k' := src.skip k
        let (args, e, t) := match arguments src d k' t with
          | .ok args e t => (args, e, t)
          | .fail t => ([], k', t)
        match src.literal? (src.skip e) ")" with
        | none => .fail t
        | some q => .ok (.call name args) q t
termination_by src.descent d 20 0
decreasing_by all_goals exact src.descent_lt (by omega)

def range (src : Source) (d p : Nat) (t : Attempts) : Outcome Expr :=
  withRule .range p t fun t =>
    match src.literal? p "[" with
    | none => .fail t
    | some q =>
      match d with
      | 0 => .fail t
      | d' + 1 =>
        match expr src d' (src.skip q) t with
        | .fail t => .fail t
        | .ok a m1 t =>
          match src.literal? (src.skip m1) ":" with
          | none => .fail t
          | some c1 =>
            match expr src d' (src.skip c1) t with
            | .fail t => .fail t
            | .ok b m2 t =>
              let k := src.skip m2
              let (third, m3, t) := match src.literal? k ":" with
                | none => (none, k, t)
                | some c2 =>
                  match expr src d' (src.skip c2) t with
                  | .fail t => (none, k, t)
                  | .ok c m t => (some c, m, t)
              match src.literal? (src.skip m3) "]" with
              | none => .fail t
              | some e =>
                match third with
                | none => .ok (.range a none b) e t
                | some c => .ok (.range a (some b) c) e t
termination_by src.descent d 20 0
decreasing_by all_goals exact src.descent_lt (by omega)

def vector (src : Source) (d p : Nat) (t : Attempts) : Outcome Expr :=
  withRule .vector p t fun t =>
    match src.literal? p "[" with
    | none => .fail t
    | some q =>
      match d with
      | 0 => .fail t
      | d' + 1 =>
        let k := src.skip q
        let (items, m, t) := match expr src d' k t with
          | .fail t => ([], k, t)
          | .ok e j t =>
            let j' := src.skip j
            let (rest, r, t) := vectorTail src (d' + 1) j' j' t
            let r' := src.skip r
            (e :: rest, (src.literal? r' ",").getD r', t)
        match src.literal? (src.skip m) "]" with
        | none => .fail t
        | some e => .ok (.vector items) e t
termination_by src.descent d 20 0
decreasing_by all_goals exact src.descent_lt (by omega)

def vectorTail (src : Source) (d start fallback : Nat) (t : Attempts) :
    List Expr × Nat × Attempts :=
  match src.literal? start "," with
  | none => ([], fallback, t)
  | some c =>
    match d with
    | 0 => ([], fallback, t)
    | d' + 1 =>
      match expr src d' (src.skip c) t with
      | .fail t => ([], fallback, t)
      | .ok e m t =>
        if _h : fallback < m ∧ m ≤ src.size then
          let (rest, r, t) := vectorTail src (d' + 1) (src.skip m) m t
          (e :: rest, r, t)
        else ([e], m, t)
termination_by src.descent d 19 (src.size - fallback)
decreasing_by all_goals exact src.descent_lt (by omega)

def arguments (src : Source) (d p : Nat) (t : Attempts) : Outcome (List Argument) :=
  withRule .arguments p t fun t =>
    match argument src d p t with
    | .fail t => .fail t
    | .ok a j t =>
      let k := src.skip j
      let (rest, e, t) := argumentTail src d k k t
      let e' := src.skip e
      .ok (a :: rest) ((src.literal? e' ",").getD e') t
termination_by src.descent d 18 0
decreasing_by all_goals exact src.descent_lt (by omega)

def argumentTail (src : Source) (d start fallback : Nat) (t : Attempts) :
    List Argument × Nat × Attempts :=
  match src.literal? start "," with
  | none => ([], fallback, t)
  | some c =>
    match argument src d (src.skip c) t with
    | .fail t => ([], fallback, t)
    | .ok a m t =>
      if _h : fallback < m ∧ m ≤ src.size then
        let (rest, e, t) := argumentTail src d (src.skip m) m t
        (a :: rest, e, t)
      else ([a], m, t)
termination_by src.descent d 17 (src.size - fallback)
decreasing_by all_goals exact src.descent_lt (by omega)

def argument (src : Source) (d p : Nat) (t : Attempts) : Outcome Argument :=
  (namedArgument src d p t).orElse fun t =>
    match d with
    | 0 => .fail t
    | d' + 1 => (expr src d' p t).map fun e => ⟨none, e⟩
termination_by src.descent d 16 0
decreasing_by all_goals exact src.descent_lt (by omega)

def namedArgument (src : Source) (d p : Nat) (t : Attempts) : Outcome Argument :=
  withRule .namedArgument p t fun t =>
    match token .ident src.name? p t with
    | .fail t => .fail t
    | .ok name j t =>
      match src.literal? (src.skip j) "=" with
      | none => .fail t
      | some k =>
        let k' := src.skip k
        if (src.literal? k' "=").isSome then .fail t
        else
          match d with
          | 0 => .fail t
          | d' + 1 =>
            match expr src d' k' t with
            | .fail t => .fail t
            | .ok e m t => .ok ⟨some name, e⟩ m t
termination_by src.descent d 15 0
decreasing_by all_goals exact src.descent_lt (by omega)

end

/-- Read one expression at the start of `text`; it must be followed by nothing but blanks
(the blanks directly after it belong to it). -/
def parseExpression (text : String) : Except Failure Expr :=
  let src := Source.ofString text
  match expr src (src.size + 1) 0 {} with
  | .fail t => .error (src.failureAt t.position t.message)
  | .ok e m _ =>
    if src.byteAt m != (Text.trimEnd text).utf8ByteSize then
      .error (src.failureAt m "unexpected trailing input")
    else .ok e

end CsgPreview.Script.Grammar

namespace CsgPreview.Script.Grammar

/-- Whether a text is a variable name: an ASCII letter, `_` or `$`, then ASCII letters, digits
and `_`. -/
def isVariableName (name : String) : Bool :=
  match name.toList with
  | c :: rest => (isAsciiLetter c || c == '_' || c == '$') && rest.all isNameChar
  | [] => false

/-- Read a definition `name=value`: the text up to the first `=` (blanks trimmed) must be a
variable name, and the rest (blanks trimmed) an expression. -/
def parseDefinition (text : String) : Except Failure Assignment :=
  match text.toList.span (· != '=') with
  | (_, []) => .error ⟨text.utf8ByteSize, 1, text.length + 1, "expected name=value"⟩
  | (before, _ :: after) =>
    let name := Text.trim (String.ofList before)
    if !isVariableName name then
      .error ⟨0, 1, 1, "invalid variable name '" ++ name ++ "'"⟩
    else
      (parseExpression (Text.trim (String.ofList after))).map fun e => ⟨name, e⟩

end CsgPreview.Script.Grammar
