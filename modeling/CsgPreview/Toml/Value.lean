/-!
TOML documents as data: values with the byte spans of their text, keys with the text they were
written as, and tables built up as a document is read.

A document is read top to bottom into a current table: key/value lines go into it (through
dotted keys into sub-tables created on the way), and a `[header]` or `[[header]]` line files the
current table into the document and starts a new one. The rules that can reject a document
while it is built:

* a key may be given a value once per table;
* a dotted key may only go through tables, and not through a table that a header defined;
* a header may not name a value or a table defined before, except a table that only came into
  being as the parent of another header;
* `[[header]]` may only add to an array of tables.
-/

namespace CsgPreview.Toml

/-- A byte range of the document text. -/
structure Span where
  start : Nat
  stop : Nat
  deriving Inhabited, DecidableEq, Repr

/-- A value as written in a document. -/
inductive TomlValue where
  | string (s : String)
  | integer (i : Int)
  | float (x : Float)
  | boolean (b : Bool)
  | datetime (text : String)
  | array (items : List (TomlValue × Span))
  | inline (entries : List (String × TomlValue × Span))
  deriving Inhabited

def TomlValue.typeName : TomlValue → String
  | .string _ => "string"
  | .integer _ => "integer"
  | .float _ => "float"
  | .boolean _ => "boolean"
  | .datetime _ => "datetime"
  | .array _ => "array"
  | .inline _ => "inline table"

/-- A key: its name, the text it was written as and where. -/
structure Key where
  name : String
  raw : String
  span : Span
  deriving Inhabited, Repr

mutual

/-- What a table holds under a key. -/
inductive Item where
  | value (v : TomlValue) (span : Span)
  | table (t : Table)
  | tables (ts : List Table)

/-- A table: its entries in order under the keys that first named them, whether it only exists as
a parent of something defined (implicit) and whether dotted keys made it, and the span of its
text if it has one. -/
inductive Table where
  | mk (entries : List (Key × Item)) (implicit dotted : Bool) (span : Option Span)

end

instance : Inhabited Table := ⟨.mk [] false false none⟩

namespace Table

def entries : Table → List (Key × Item)
  | .mk e _ _ _ => e

def implicit : Table → Bool
  | .mk _ i _ _ => i

def dotted : Table → Bool
  | .mk _ _ d _ => d

def span : Table → Option Span
  | .mk _ _ _ s => s

def find? (t : Table) (name : String) : Option Item :=
  (t.entries.find? (·.1.name == name)).map (·.2)

def withEntries (t : Table) (entries : List (Key × Item)) : Table :=
  .mk entries t.implicit t.dotted t.span

/-- Replace the entry under a key's name, keeping the key that named it first, or add it at the
end. -/
def put (t : Table) (key : Key) (item : Item) : Table :=
  if t.entries.any (·.1.name == key.name) then
    t.withEntries (t.entries.map fun (k, i) => if k.name == key.name then (k, item) else (k, i))
  else t.withEntries (t.entries ++ [(key, item)])

def erase (t : Table) (name : String) : Table :=
  t.withEntries (t.entries.filter (·.1.name != name))

end Table

/-- Why a document cannot be built. -/
inductive BuildError where
  | duplicateKey (key : String) (table : Option (List String))
  | extendWrongType (path : List String) (actual : String)
  | outOfRange
  deriving Inhabited

def BuildError.text : BuildError → String
  | .duplicateKey key none => "duplicate key `" ++ key ++ "`"
  | .duplicateKey key (some []) => "duplicate key `" ++ key ++ "` in document root"
  | .duplicateKey key (some path) =>
    "duplicate key `" ++ key ++ "` in table `" ++ ".".intercalate path ++ "`"
  | .extendWrongType path actual =>
    "dotted key `" ++ ".".intercalate path ++ "` attempted to extend non-table type (" ++
      actual ++ ")"
  | .outOfRange => "value is out of range"

/-- The error of a header or array header naming something it may not: the key as written, in
the table of the keys before it. -/
def duplicateAt (path : List Key) (i : Nat) : BuildError :=
  .duplicateKey ((path[i]?.map (·.raw)).getD "") (some ((path.take i).map (·.name)))

/-- Go down a path of keys from a table, creating missing tables (implicit, and dotted when the
path is a dotted key), through the last table of an array of tables, and apply `f` to the table
reached; the tables on the way are rebuilt around its result. `done` counts the keys already
gone through, for the error texts. -/
def descend {α : Type} (full : List Key) (dotted : Bool) (f : Table → Except BuildError (Table × α)) :
    Nat → List Key → Table → Except BuildError (Table × α)
  | _, [], t => f t
  | done, k :: rest, t =>
    match t.find? k.name with
    | none => do
      let (sub, a) ← descend full dotted f (done + 1) rest (.mk [] true dotted none)
      return (t.put k (.table sub), a)
    | some (.value v _) =>
      .error (.extendWrongType ((full.take (done + 1)).map (·.name)) v.typeName)
    | some (.tables ts) =>
      match ts.getLast? with
      | some last => do
        let (sub, a) ← descend full dotted f (done + 1) rest last
        return (t.put k (.tables (ts.dropLast ++ [sub])), a)
      | none => .error (.duplicateKey k.name none)
    | some (.table sub) =>
      if dotted && !sub.implicit then .error (.duplicateKey k.name none)
      else do
        let (sub, a) ← descend full dotted f (done + 1) rest sub
        return (t.put k (.table sub), a)

/-- The state of reading a document: the document's root, the table being filled, its path and
whether it belongs to an array of tables. -/
structure Builder where
  root : Table := default
  current : Table := default
  path : List Key := []
  isArray : Bool := false
  deriving Inhabited

namespace Builder

def keyval (b : Builder) (path : List Key) (key : Key) (v : TomlValue) (span : Span) :
    Except BuildError Builder := do
  let current := match b.current.span with
    | some s => Table.mk b.current.entries b.current.implicit b.current.dotted (some ⟨s.start, span.stop⟩)
    | none => b.current
  let (current, _) ← descend path true (fun t =>
    if t.dotted == path.isEmpty then .error (.duplicateKey key.name none)
    else if (t.find? key.name).isSome then
      .error (.duplicateKey key.name (some (b.path.map (·.name))))
    else .ok (t.put key (.value v span), ())) 0 path current
  return { b with current }

def finish (b : Builder) : Except BuildError Builder := do
  match b.path.getLast? with
  | none => return { b with root := b.current, current := default }
  | some key =>
    let parents := b.path.dropLast
    let (root, _) ← descend parents false (fun parent =>
      if b.isArray then
        match parent.find? key.name with
        | none => .ok (parent.put key (.tables [b.current]), ())
        | some (.tables ts) => .ok (parent.put key (.tables (ts ++ [b.current])), ())
        | some _ => .error (duplicateAt b.path parents.length)
      else
        match parent.find? key.name with
        | none => .ok (parent.put key (.table b.current), ())
        | some (.table t) =>
          if t.implicit then .ok (parent.put key (.table b.current), ())
          else .error (duplicateAt b.path parents.length)
        | some _ => .error (duplicateAt b.path parents.length)) 0 parents b.root
    return { b with root, current := default, path := [] }

/-- A `[header]` line: file the current table and start the named one; a table that so far only
existed as a parent keeps its entries. -/
def header (b : Builder) (path : List Key) (span : Span) : Except BuildError Builder := do
  let b ← b.finish
  let parents := path.dropLast
  let some key := path.getLast? | return b
  let (root, kept) ← descend parents false (fun parent =>
    match parent.find? key.name with
    | none => .ok (parent, [])
    | some (.table t) =>
      if t.implicit && !t.dotted then .ok (parent.erase key.name, t.entries)
      else .error (duplicateAt path parents.length)
    | some _ => .error (duplicateAt path parents.length)) 0 parents b.root
  return { root, current := .mk kept false false (some span), path, isArray := false }

def arrayHeader (b : Builder) (path : List Key) (span : Span) : Except BuildError Builder := do
  let b ← b.finish
  let parents := path.dropLast
  let some key := path.getLast? | return b
  let (root, _) ← descend parents false (fun parent =>
    match parent.find? key.name with
    | none => .ok (parent.put key (.tables []), ())
    | some (.tables _) => .ok (parent, ())
    | some _ => .error (duplicateAt path parents.length)) 0 parents b.root
  return { root, current := .mk [] false false (some span), path, isArray := true }

end Builder

/-- Go down a dotted key inside an inline table, creating tables on the way (placed where their
key was written). `created` holds the paths of the tables that dotted keys of this inline table
created; only those may be gone through again, since a table written out in full is final, and
anything but a table on the way is an error. The paths created on the way come back too. -/
def descendInline {α : Type} (full : List Key) (created : List (List String))
    (f : List (String × TomlValue × Span) → Except BuildError (List (String × TomlValue × Span) × α)) :
    Nat → List Key → List (String × TomlValue × Span) →
      Except BuildError (List (String × TomlValue × Span) × α × List (List String))
  | _, [], entries => do
    let (entries, a) ← f entries
    return (entries, a, created)
  | done, k :: rest, entries =>
    let here := (full.take (done + 1)).map (·.name)
    let replace (v : TomlValue) (s : Span) : List (String × TomlValue × Span) :=
      if entries.any (·.1 == k.name) then
        entries.map fun e => if e.1 == k.name then (k.name, v, s) else e
      else entries ++ [(k.name, v, s)]
    match entries.find? (·.1 == k.name) with
    | none => do
      let (sub, a, created) ← descendInline full (created ++ [here]) f (done + 1) rest []
      return (replace (.inline sub) k.span, a, created)
    | some (_, .inline sub, s) =>
      if !created.contains here then .error (.duplicateKey k.name none)
      else do
        let (sub, a, created) ← descendInline full created f (done + 1) rest sub
        return (replace (.inline sub) s, a, created)
    | some (_, v, _) =>
      .error (.extendWrongType here v.typeName)

def inlineEntries (pairs : List (List Key × Key × TomlValue × Span)) :
    Except BuildError (List (String × TomlValue × Span)) := do
  let (entries, _) ← pairs.foldlM (fun (entries, created) (path, key, v, span) => do
    let (entries, _, created) ← descendInline path created (fun t =>
      if t.any (·.1 == key.name) then .error (.duplicateKey key.name none)
      else .ok (t ++ [(key.name, v, span)], ())) 0 path entries
    return (entries, created)) (([] : List (String × TomlValue × Span)), ([] : List (List String)))
  return entries

end CsgPreview.Toml
