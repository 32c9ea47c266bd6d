/-!
File-system paths as the program spells them: `/`-separated text, absolute when it starts with
`/`. Joining and taking the parent work on the text, so that what is shown to the user keeps the
spelling the program built (`deep/../b.scad` stays as it is). Comparing two paths works on
their components, so that `a//b` and `a/./b` are one path.
-/

namespace CsgPreview.Files

/-- One component of a path, in the order paths sort by: the root first, then `.`, then `..`,
then ordinary names by their bytes. -/
inductive Component where
  | root
  | current
  | up
  | name (text : String)
  deriving DecidableEq, Repr

def Component.kind : Component → Nat
  | .root => 0
  | .current => 1
  | .up => 2
  | .name _ => 3

def Component.compare (a b : Component) : Ordering :=
  match a, b with
  | .name x, .name y => Ord.compare x.toUTF8.toList y.toUTF8.toList
  | _, _ => Ord.compare a.kind b.kind

/-- The components of a path: a leading `/` is the root, a leading `.` is kept, and inner
empty and `.` parts are skipped. -/
def components (path : String) : List Component :=
  let parts := path.splitOn "/"
  let inner (rest : List String) : List Component :=
    rest.filterMap fun part =>
      if part == "" || part == "." then none
      else if part == ".." then some .up
      else some (.name part)
  match parts with
  | "" :: rest => if path.isEmpty then [] else .root :: inner rest
  | "." :: rest => .current :: inner rest
  | first :: rest => inner (first :: rest)
  | [] => []

def compareComponents : List Component → List Component → Ordering
  | [], [] => .eq
  | [], _ :: _ => .lt
  | _ :: _, [] => .gt
  | a :: as, b :: bs =>
    match a.compare b with
    | .eq => compareComponents as bs
    | o => o

def comparePaths (a b : String) : Ordering :=
  compareComponents (components a) (components b)

def samePath (a b : String) : Bool :=
  components a == components b

def sortPaths (paths : List String) : List String :=
  let sorted := paths.mergeSort fun a b => comparePaths a b != .gt
  sorted.foldr (fun p acc =>
    match acc with
    | q :: _ => if samePath p q then p :: acc.tail else p :: acc
    | [] => [p]) []

/-- `name` read against the directory `base`: an absolute name stands alone, otherwise one
separator goes between the two unless `base` is empty or already ends in one. -/
def joinPath (base name : String) : String :=
  if name.startsWith "/" then name
  else if base.isEmpty || base.endsWith "/" then base ++ name
  else base ++ "/" ++ name

/-- Drop separators and `.` parts at the end of a path, keeping its first part, so that a
leading root or `.` stays. -/
def trimTail (path : String) : String :=
  match path.splitOn "/" with
  | first :: rest =>
    let kept := (rest.reverse.dropWhile fun p => p == "" || p == ".").reverse
    if first.isEmpty && kept.isEmpty && !path.isEmpty then "/"
    else "/".intercalate (first :: kept)
  | [] => ""

def parentPath? (path : String) : Option String :=
  let trimmed := trimTail path
  if trimmed.isEmpty || trimmed == "/" then none
  else
    match (trimmed.splitOn "/").dropLast with
    | [] => some ""
    | [""] => some "/"
    | front => some (trimTail ("/".intercalate front))

/-- The directory a document's includes are read against: its parent, or `.` when it has
none. -/
def documentDir (path : String) : String :=
  match parentPath? path with
  | some dir => if dir.isEmpty then "." else dir
  | none => "."

end CsgPreview.Files
