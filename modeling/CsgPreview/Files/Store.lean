import CsgPreview.Files.Path

/-!
A file system held as data: files with their bytes and the stamp of their last write, the
directories that hold them, and the working directory relative paths are read against.

Looking a path up walks it part by part the way the operating system does: a part after a
file is an error ("Not a directory"), a name longer than 255 bytes is an error ("File name too
long"), a missing part is an error ("No such file or directory"), `.` stays and `..` goes up. A
path with a NUL byte, or of 4096 bytes or more, is refused before any part is looked up. The key of what is found is its absolute path with
every `.` and `..` taken out, which is also what canonicalising the path gives.
-/

namespace CsgPreview.Files

/-- Why a file could not be read. -/
inductive IoError where
  | notFound
  | notADirectory
  | isADirectory
  | nameTooLong
  | nulInName
  | invalidText
  deriving DecidableEq, Repr

def IoError.text : IoError → String
  | .notFound => "No such file or directory (os error 2)"
  | .notADirectory => "Not a directory (os error 20)"
  | .isADirectory => "Is a directory (os error 21)"
  | .nameTooLong => "File name too long (os error 36)"
  | .nulInName => "file name contained an unexpected NUL byte"
  | .invalidText => "stream did not contain valid UTF-8"

/-- A stored file: its bytes and the stamp of its last write. -/
structure FileData where
  bytes : ByteArray
  stamp : Nat

/-- What a file looks like from outside: when it was last written and how long it is. Two
equal fingerprints mean the file did not change. -/
structure Fingerprint where
  stamp : Nat
  size : Nat
  deriving DecidableEq, Repr

def nameMax : Nat := 255

def pathMax : Nat := 4096

def directorySize : Nat := 4096

/-- Files keyed by absolute path, directories with the stamp of their last change, the working
directory, and a clock that stamps every change. -/
structure FileStore where
  cwd : String
  files : List (String × FileData)
  dirs : List (String × Nat)
  clock : Nat

/-- What a path leads to. -/
inductive Found where
  | file (key : String) (data : FileData)
  | directory (key : String)

def ancestors (key : String) : List String :=
  let parts := ((key.splitOn "/").drop 1).filter (· != "")
  (List.range parts.length).map fun n => "/" ++ "/".intercalate (parts.take n)

def normalizeLexically (path : String) : String :=
  let stack := (path.splitOn "/").foldl (fun (stack : List String) part =>
    if part == "" || part == "." then stack
    else if part == ".." then stack.drop 1
    else part :: stack) []
  "/" ++ "/".intercalate stack.reverse

namespace FileStore

def empty (cwd : String) : FileStore :=
  ⟨normalizeLexically cwd, [], (ancestors (normalizeLexically cwd) ++
    [normalizeLexically cwd]).map fun d => (d, 0), 0⟩

def fileAt? (fs : FileStore) (key : String) : Option FileData :=
  (fs.files.find? (·.1 == key)).map (·.2)

def hasDir (fs : FileStore) (key : String) : Bool :=
  fs.dirs.any (·.1 == key)

def step (fs : FileStore) (at? : Except IoError Found) (part : String) : Except IoError Found :=
  match at? with
  | .error e => .error e
  | .ok (.file _ _) => .error .notADirectory
  | .ok (.directory key) =>
    if part == "" || part == "." then .ok (.directory key)
    else if part == ".." then .ok (.directory ((parentPath? key).getD "/"))
    else if part.utf8ByteSize > nameMax then .error .nameTooLong
    else
      let child := joinPath key part
      match fs.fileAt? child with
      | some data => .ok (.file child data)
      | none => if fs.hasDir child then .ok (.directory child) else .error .notFound

def resolve (fs : FileStore) (path : String) : Except IoError Found :=
  if path.toList.contains '\x00' then .error .nulInName
  else if path.utf8ByteSize ≥ pathMax then .error .nameTooLong
  else if path.isEmpty then .error .notFound
  else ((joinPath fs.cwd path).splitOn "/").drop 1 |>.foldl fs.step (.ok (.directory "/"))

def isFile (fs : FileStore) (path : String) : Bool :=
  match fs.resolve path with
  | .ok (.file _ _) => true
  | _ => false

def canonical? (fs : FileStore) (path : String) : Option String :=
  match fs.resolve path with
  | .ok (.file key _) => some key
  | .ok (.directory key) => some key
  | .error _ => none

def readText (fs : FileStore) (path : String) : Except IoError String :=
  match fs.resolve path with
  | .ok (.file _ data) =>
    match String.fromUTF8? data.bytes with
    | some text => .ok text
    | none => .error .invalidText
  | .ok (.directory _) => .error .isADirectory
  | .error e => .error e

def keys (fs : FileStore) : List String := fs.files.map (·.1)

theorem mem_keys_of_fileAt? {fs : FileStore} {key : String} {data : FileData}
    (h : fs.fileAt? key = some data) : key ∈ fs.keys := by
  simp only [fileAt?, Option.map_eq_some_iff] at h
  obtain ⟨entry, found, rfl⟩ := h
  have named : entry.1 = key := by simpa using List.find?_some found
  exact List.mem_map.2 ⟨entry, List.mem_of_find?_eq_some found, named⟩

theorem step_file {fs : FileStore} {at? : Except IoError Found} {part key : String}
    {data : FileData} (h : fs.step at? part = .ok (.file key data)) :
    fs.fileAt? key = some data := by
  unfold step at h
  split at h
  · cases h
  · cases h
  · split at h
    · cases h
    split at h
    · cases h
    split at h
    · cases h
    dsimp only at h
    split at h
    next found =>
      simp only [Except.ok.injEq, Found.file.injEq] at h
      obtain ⟨rfl, rfl⟩ := h
      exact found
    next => split at h <;> cases h

theorem foldl_step_file {fs : FileStore} {key : String} {data : FileData} :
    ∀ (parts : List String) (acc : Except IoError Found),
      (acc = .ok (.file key data) → fs.fileAt? key = some data) →
      parts.foldl fs.step acc = .ok (.file key data) → fs.fileAt? key = some data
  | [], _, start => start
  | part :: rest, acc, _ => foldl_step_file rest (fs.step acc part) step_file

theorem canonical_mem_keys {fs : FileStore} {path text : String}
    (h : fs.readText path = .ok text) : (fs.canonical? path).getD path ∈ fs.keys := by
  unfold readText at h
  unfold canonical?
  split at h
  next key data found =>
    rw [Option.getD_some]
    refine mem_keys_of_fileAt? (?_ : fs.fileAt? key = some data)
    unfold resolve at found
    split at found
    · cases found
    · split at found
      · cases found
      · split at found
        · cases found
        · exact foldl_step_file _ (.ok (.directory "/")) (fun h => by cases h) found
  next => cases h
  next => cases h

def fingerprint? (fs : FileStore) (path : String) : Option Fingerprint :=
  match fs.resolve path with
  | .ok (.file _ data) => some ⟨data.stamp, data.bytes.size⟩
  | .ok (.directory key) =>
    (fs.dirs.find? (·.1 == key)).map fun d => ⟨d.2, directorySize⟩
  | .error _ => none

def touchDir (fs : FileStore) (key : String) : FileStore :=
  { fs with dirs := fs.dirs.map fun d => if d.1 == key then (key, fs.clock) else d }

def write (fs : FileStore) (path : String) (bytes : ByteArray) : FileStore :=
  let key := normalizeLexically (joinPath fs.cwd path)
  let clock := fs.clock + 1
  let newDirs := (ancestors key).filter fun d => !fs.hasDir d
  let fresh := (fs.fileAt? key).isNone
  let fs := { fs with clock, dirs := fs.dirs ++ newDirs.map fun d => (d, clock) }
  let fs := if fresh then fs.touchDir ((parentPath? key).getD "/") else fs
  { fs with files := (fs.files.filter (·.1 != key)) ++ [(key, ⟨bytes, clock⟩)] }

def writeText (fs : FileStore) (path text : String) : FileStore :=
  fs.write path text.toUTF8

def remove (fs : FileStore) (path : String) : Except IoError FileStore :=
  match fs.resolve path with
  | .ok (.file key _) =>
    let fs := { fs with clock := fs.clock + 1, files := fs.files.filter (·.1 != key) }
    .ok (fs.touchDir ((parentPath? key).getD "/"))
  | .ok (.directory _) => .error .isADirectory
  | .error e => .error e

/-- Bring the store in line with a listing of files by path: files that are new or whose bytes
changed are written, files no longer listed are removed, and the others keep their stamps, so
that fingerprints change exactly for the files that changed. -/
def sync (fs : FileStore) (listing : List (String × ByteArray)) : FileStore :=
  let fs := listing.foldl (fun fs (path, bytes) =>
    match fs.fileAt? (normalizeLexically (joinPath fs.cwd path)) with
    | some data => if data.bytes.data == bytes.data then fs else fs.write path bytes
    | none => fs.write path bytes) fs
  let listed := listing.map fun (path, _) => normalizeLexically (joinPath fs.cwd path)
  fs.files.foldl (fun fs (key, _) =>
    if listed.contains key then fs else (fs.remove key).toOption.getD fs) fs

end FileStore

end CsgPreview.Files
