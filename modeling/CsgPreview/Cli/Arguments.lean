import CsgPreview.Config.Load

/-!
The command line of `polyframe-preview`: its commands and options, their help texts, and how an
argument list is read into what to do.

Four commands (`compile`, `render`, `watch`, `config`) and a `help` command. The options `-c`,
`-v` and `-D` may be given before or after the command; `-h` asks for help at any point.

Reading follows the usual conventions: `--name value`, `--name=value`, `-x value`, `-xvalue` and
`-x=value` for options, clustered short flags (`-vh`), and `--` before arguments that only look
like options. A flag or a single-valued option may be given once per command level; `-D` may be
repeated. Where the same option is given both before and after the command, the later level wins.

What goes wrong is reported the way the program always does: a one-line `error:` with the
argument, an optional tip (a similar name that exists, or how to pass a value starting with
`-`), the usage line, and a pointer to `--help`; these end the program with status 2. Help goes
to standard output with status 0, except when the program is run with no arguments at all: then
the help goes to standard error with status 2.
-/

namespace CsgPreview.Cli

/-- What a run is asked to do. -/
inductive Command where
  | compile (input : String) (dumpTree dumpProducts json : Bool)
  | render (input : String)
  | watch (input : String) (maxPolls : Option Nat)
  | config
  deriving Inhabited, Repr, DecidableEq

/-- A command with the options that apply to every command. -/
structure Invocation where
  command : Command
  configFile : Option String := none
  verbose : Bool := false
  definitions : List String := []
  deriving Inhabited, Repr, DecidableEq

/-- The result of reading the arguments: a run, help for standard output, or a text for standard
error that ends the program with status 2. -/
inductive ArgsOutcome where
  | run (i : Invocation)
  | help (text : String)
  | usage (text : String)
  deriving Inhabited, Repr, DecidableEq

/-- An option or a flag. -/
structure Switch where
  id : String
  short : Option Char := none
  long : Option String := none
  /-- The name of its value, for an option that takes one. -/
  value : Option String := none
  help : String
  /-- Whether it may be given more than once, each value adding to the others. -/
  repeatable : Bool := false
  deriving Inhabited, Repr

namespace Switch

def shown (s : Switch) : String :=
  let name := match s.long, s.short with
    | some l, _ => "--" ++ l
    | none, some c => "-" ++ c.toString
    | none, none => ""
  name ++ (s.value.map (" <" ++ · ++ ">")).getD ""

def listed (s : Switch) : String :=
  match s.short, s.long with
  | some c, some _ => "-" ++ c.toString ++ ", " ++ s.shown
  | some _, none => s.shown
  | none, _ => "    " ++ s.shown

def isFlag (s : Switch) : Bool := s.value.isNone

end Switch

def programName : String := "polyframe-preview"

def programAbout : String :=
  "Polyframe preview pipeline - compile OpenSCAD documents into render chains"

def globalSwitches : List Switch :=
  [{ id := "config", short := some 'c', long := some "config", value := some "FILE",
     help := "Configuration file (defaults to ./polyframe.toml when present)" },
   { id := "verbose", short := some 'v', long := some "verbose", help := "Verbose output" },
   { id := "define", short := some 'D', value := some "NAME=VALUE",
     help := "Override a top-level variable, e.g. -D size=10 (repeatable)", repeatable := true }]

def helpSwitch : Switch := { id := "help", short := some 'h', long := some "help", help := "Print help" }

def helpAbout : String := "Print this message or the help of the given subcommand(s)"

/-- A command's description: name, about line, own options, and whether it reads an input file.
-/
structure CommandSpec where
  name : String
  about : String
  switches : List Switch := []
  takesInput : Bool := true
  deriving Inhabited, Repr

def commandSpecs : List CommandSpec :=
  [{ name := "compile", about := "Compile a document once and report its render chains",
     switches :=
      [{ id := "dump_tree", long := some "dump-tree", help := "Print the instantiated tree" },
       { id := "dump_products", long := some "dump-products",
         help := "Print the flattened products of every chain" },
       { id := "json", long := some "json", help := "Print a JSON report instead of the summary" }] },
   { name := "render", about := "Render the exact geometry on the background worker" },
   { name := "watch", about := "Recompile whenever the document or its dependencies change",
     switches :=
      [{ id := "max_polls", long := some "max-polls", value := some "MAX_POLLS",
         help := "Stop after this many polls that did work" }] },
   { name := "config", about := "Print the effective configuration", takesInput := false }]

def commandNames : List String := commandSpecs.map (·.name) ++ ["help"]

def pad (n : Nat) : String := String.ofList (List.replicate n ' ')

/-- Help rows: each name followed by its description, the descriptions lined up two spaces after
the widest name; a row's width may count more than its text (see `switchRows`). -/
def helpRows (rows : List (String × Nat × String)) : String :=
  let widest := rows.foldl (fun m r => max m r.2.1) 0
  "\n".intercalate (rows.map fun (name, _, help) =>
    "  " ++ name ++ pad (widest + 2 - name.length) ++ help)

/-- Option rows: options with no short form are indented to line up with the long form of the
others, and every option counts as wide as its long form with a short one in front. -/
def switchRows (switches : List Switch) : String :=
  helpRows (switches.map fun s => (s.listed, s.shown.length + 4, s.help))

def topUsage : String := programName ++ " [OPTIONS] <COMMAND>"

def CommandSpec.usage (c : CommandSpec) : String :=
  programName ++ " " ++ c.name ++ " [OPTIONS]" ++ (if c.takesInput then " <INPUT>" else "")

def helpText (about usage : String) (sections : List (String × String)) : String :=
  about ++ "\n\nUsage: " ++ usage ++ "\n\n" ++
    "\n\n".intercalate (sections.map fun (heading, body) => heading ++ ":\n" ++ body) ++ "\n"

def topHelp : String :=
  let commands := (commandSpecs.map fun c => (c.name, c.about)) ++ [("help", helpAbout)]
  helpText programAbout topUsage
    [("Commands", helpRows (commands.map fun (n, a) => (n, n.length, a))),
     ("Options", switchRows (globalSwitches ++ [helpSwitch]))]

def CommandSpec.help (c : CommandSpec) : String :=
  let input := if c.takesInput then [("Arguments", helpRows [("<INPUT>", 7, "Input SCAD file")])] else []
  helpText c.about c.usage (input ++ [("Options", switchRows (c.switches ++ globalSwitches ++ [helpSwitch]))])

def helpUsage : String := programName ++ " help [COMMAND]..."

def helpCommandHelp : String :=
  helpText helpAbout helpUsage
    [("Arguments", helpRows [("[COMMAND]...", 12, "Print help for the subcommand(s)")])]

/-- An error report: the message, tips, the usage when there is one, and, where the level has a
help flag, a pointer to it. -/
def errorReport (message : String) (tips : List String) (usage : Option String) (hint : Bool) :
    String :=
  "error: " ++ message ++
    String.join (tips.map fun t => "\n\n  tip: " ++ t) ++
    ((usage.map fun u => "\n\nUsage: " ++ u).getD "") ++
    (if hint then "\n\nFor more information, try '--help'.\n" else "\n")

def errorText (message : String) (tips : List String) (usage : Option String) : String :=
  errorReport message tips usage true

/-! ### Similar names -/

def jaroMatch (a : Char) (i range : Nat) (bs : List Char) (taken : List Bool) : Option (List Bool) :=
  let lo := i - range
  let hi := i + range + 1
  let rec go : Nat → List Char → List Bool → Option (List Bool)
    | _, [], _ => none
    | _, _, [] => none
    | j, b :: bs, t :: ts =>
      if lo ≤ j && j < hi && a == b && !t then some (true :: ts)
      else (go (j + 1) bs ts).map (t :: ·)
  go 0 bs taken

/-- Jaro similarity of two names as a fraction: matching characters within half the longer
length, counted against both lengths and against the transpositions among them. -/
def jaro (a b : String) : Nat × Nat :=
  let as := a.toList
  let bs := b.toList
  if as.isEmpty && bs.isEmpty then (1, 1)
  else if as.isEmpty || bs.isEmpty then (0, 1)
  else
    let range := max as.length bs.length / 2 - 1
    let (aFlags, bFlags) := as.zipIdx.foldl (fun (af, bf) (c, i) =>
      match jaroMatch c i range bs bf with
      | some bf => (af ++ [true], bf)
      | none => (af ++ [false], bf)) (([] : List Bool), List.replicate bs.length false)
    let aMatched := (as.zip aFlags).filterMap fun (c, f) => if f then some c else none
    let bMatched := (bs.zip bFlags).filterMap fun (c, f) => if f then some c else none
    let m := aMatched.length
    if m == 0 then (0, 1)
    else
      let t := ((aMatched.zip bMatched).filter fun (x, y) => x != y).length / 2
      let la := as.length
      let lb := bs.length
      (m * m * lb + m * m * la + (m - t) * la * lb, 3 * m * la * lb)

def similar (s : Nat × Nat) : Bool := 10 * s.1 > 7 * s.2

/-- The candidates similar to a name, least similar first; among equally similar ones the later
candidate comes later. -/
def similarNames (name : String) (candidates : List String) : List String :=
  let scored := (candidates.map fun c => (jaro name c, c)).filter (similar ·.1)
  (scored.mergeSort fun x y => x.1.1 * y.1.2 ≤ y.1.1 * x.1.2).map (·.2)

/-! ### Reading -/

/-- Values given to the switches of one command level, in the order the switches were first
given; a flag records one use with no value. -/
abbrev Given := List (String × List String)

def Given.add (g : Given) (id : String) (v : Option String) : Given :=
  if g.any (·.1 == id) then g.map fun (k, vs) => if k == id then (k, vs ++ v.toList) else (k, vs)
  else g ++ [(id, v.toList)]

def Given.has (g : Given) (id : String) : Bool := g.any (·.1 == id)

def inputId : String := "input"

/-- A level's own arguments taken as one unit, which a usage line may name in place of its
members. -/
structure ArgGroup where
  name : String
  members : List String
  deriving Inhabited, Repr

/-- An argument read but not taken in yet: an option waiting for its value or holding it, or the
input. Taking it in records the argument and checks its value. -/
inductive Pending where
  | option (s : Switch) (value : Option String)
  | input (value : String)
  deriving Inhabited

/-- The state of reading one command level. -/
structure Reading where
  given : Given := []
  input : Option String := none
  /-- Arguments and groups taken in, in the order they were first taken in. -/
  recorded : List String := []
  pending : Option Pending := none
  /-- Whether the input's place is filled. -/
  inputSeen : Bool := false
  /-- After `--`: every argument is a plain one. -/
  plain : Bool := false
  deriving Inhabited

/-- What reading a level came to: the level's arguments, the start of a command with the
arguments after it, the help command with the names after it, or an outcome that ends the
reading. -/
inductive LevelEnd where
  | done (r : Reading)
  | command (r : Reading) (name : String) (rest : List String)
  | helpCommand (rest : List String)
  | stop (o : ArgsOutcome)

/-- A level of the command line: the name its usage starts with, its usage and help, its
switches, whether it takes an input or commands, and the group of its own arguments. -/
structure Level where
  name : String
  usage : String
  help : String
  switches : List Switch
  takesInput : Bool
  isTop : Bool
  group : Option ArgGroup := none

/-- How a usage line names an argument: an option or flag with its value, the input by its
value name. -/
def Level.argText (l : Level) (id : String) (bracketed : Bool) : Option String :=
  if id == inputId then some (if bracketed then "<INPUT>" else "INPUT")
  else (l.switches.find? (·.id == id)).map (·.shown)

/-- The usage after arguments were taken in. With none it is the usage with every option shown
as `[OPTIONS]`. Otherwise it is the name; then the options among `used` that no named group
holds; then the groups among `used`, their members between angle brackets and bars; then the
input, which is always required, unless a named group holds it; and the command at the top. -/
def Level.usageFor (l : Level) (used : List String) : String :=
  if used.isEmpty then l.usage
  else
    let ids := (if l.takesInput then [inputId] else []) ++ used
    let groups := match l.group with
      | some g => if ids.contains g.name then [g] else []
      | none => []
    let grouped := groups.flatMap (·.members)
    let options := ids.foldl (fun acc id =>
      if id == inputId || grouped.contains id then acc
      else match l.argText id true with
        | some t => if acc.contains t then acc else acc ++ [t]
        | none => acc) []
    let groupTexts := groups.map fun g =>
      "<" ++ "|".intercalate (g.members.filterMap (l.argText · false)) ++ ">"
    let input := if l.takesInput && !grouped.contains inputId then ["<INPUT>"] else []
    " ".intercalate (l.name :: options ++ groupTexts ++ input ++
      (if l.isTop then ["<COMMAND>"] else []))

def givenTwice (l : Level) (s : Switch) : ArgsOutcome :=
  .usage (errorText ("the argument '" ++ s.shown ++ "' cannot be used multiple times") [] (some l.usage))

def valueMissing (shown : String) : ArgsOutcome :=
  .usage (errorText ("a value is required for '" ++ shown ++ "' but none was supplied") [] none)

/-- Check a value for its option: the poll count must be a machine word, the file must not be
empty. -/
def checkValue (s : Switch) (v : String) : Option ArgsOutcome :=
  if s.id == "max_polls" then
    match Config.readWord v with
    | .ok _ => none
    | .error why =>
      some (.usage (errorText ("invalid value '" ++ v ++ "' for '" ++ s.shown ++ "': " ++ why) [] none))
  else if s.id == "config" && v.isEmpty then some (valueMissing s.shown)
  else none

namespace Reading

def record (l : Level) (id : String) (r : Reading) : Reading :=
  let add (ids : List String) (x : String) := if ids.contains x then ids else ids ++ [x]
  let ids := add r.recorded id
  let ids := match l.group with
    | some g => if g.members.contains id then add ids g.name else ids
    | none => ids
  { r with recorded := ids }

/-- Take in a switch with its values (none for a flag): help ends the reading, an option needs a
value, a switch given before is an error unless it is repeatable, and the value is checked once
the switch is recorded. The state reached comes back with the error, if any. -/
def accept (l : Level) (s : Switch) (vals : List String) (r : Reading) :
    Reading × Option ArgsOutcome :=
  if s.id == "help" then (r, some (.help l.help))
  else if !s.isFlag && vals.isEmpty then (r, some (valueMissing s.shown))
  else if r.given.has s.id && !s.repeatable then (r, some (givenTwice l s))
  else
    let r := r.record l s.id
    match vals with
    | [] => ({ r with given := r.given.add s.id none }, none)
    | v :: _ =>
      match checkValue s v with
      | some o => (r, some o)
      | none => ({ r with given := r.given.add s.id (some v) }, none)

def settleAll (l : Level) (r : Reading) : Reading × Option ArgsOutcome :=
  match r.pending with
  | none => (r, none)
  | some (.option s v) => accept l s v.toList { r with pending := none }
  | some (.input v) =>
    let r := record l inputId { r with pending := none }
    if v.isEmpty then (r, some (valueMissing "<INPUT>")) else ({ r with input := some v }, none)

def settle (l : Level) (r : Reading) : Except ArgsOutcome Reading :=
  match settleAll l r with
  | (r, none) => .ok r
  | (_, some o) => .error o

def take (l : Level) (s : Switch) (vals : List String) (r : Reading) : Except ArgsOutcome Reading := do
  let r ← settle l r
  match accept l s vals r with
  | (r, none) => .ok r
  | (_, some o) => .error o

def await (l : Level) (s : Switch) (r : Reading) : Except ArgsOutcome Reading := do
  let r ← settle l r
  return { r with pending := some (.option s none) }

end Reading

/-- The unknown-argument error, with a similar name when there is one, or else, where asked, how
to pass the argument as a plain value. -/
def unknownArgument (arg : String) (similarTo : Option String) (valueTip : Bool) (usage : String) :
    ArgsOutcome :=
  let tips := match similarTo with
    | some s => ["a similar argument exists: '" ++ s ++ "'"]
    | none => if valueTip then ["to pass '" ++ arg ++ "' as a value, use '-- " ++ arg ++ "'"] else []
  .usage (errorText ("unexpected argument '" ++ arg ++ "' found") tips (some usage))

def Level.longs (l : Level) : List String := l.switches.filterMap (·.long)

/-- A command named further on that has a long option similar to `name`: the nearest such
command with that option. -/
def similarElsewhere (name : String) (rest : List String) : Option (String × String) :=
  let found := commandSpecs.filterMap fun c =>
    match (similarNames name (c.switches.filterMap (·.long))).getLast?, rest.idxOf? c.name with
    | some long, some at' => some (at', c.name, long)
    | _, _ => none
  ((found.mergeSort fun x y => x.1 ≤ y.1).head?).map (·.2)

/-- An unknown `--name`, once what was pending is taken in as far as it goes: suggest a similar
long name of this level, which then counts as given for the usage line, or of a command named
further on. -/
def unknownLong (l : Level) (name : String) (r : Reading) (rest : List String) : ArgsOutcome :=
  match (similarNames name l.longs).getLast? with
  | some s =>
    let r := match l.switches.find? (·.long == some s) with
      | some sw => r.record l sw.id
      | none => r
    unknownArgument ("--" ++ name) (some ("--" ++ s)) false (l.usageFor r.recorded)
  | none =>
    match (if l.isTop then similarElsewhere name rest else none) with
    | some (command, long) =>
      .usage (errorText ("unexpected argument '--" ++ name ++ "' found")
        ["'" ++ command ++ " --" ++ long ++ "' exists"] (some (l.usageFor r.recorded)))
    | none => unknownArgument ("--" ++ name) none (l.takesInput && !r.plain) (l.usageFor r.recorded)

/-- Read a cluster of short flags after its dash; an option takes the rest of the cluster as
its value (after an `=`, if one comes first), or the next argument when nothing is left. -/
def shortCluster (l : Level) : List Char → Reading → Except ArgsOutcome Reading
  | [], r => .ok r
  | c :: rest, r =>
    match l.switches.find? (·.short == some c) with
    | none => .error (unknownArgument ("-" ++ c.toString) none l.takesInput l.usage)
    | some s =>
      if s.isFlag then do
        let r ← r.take l s []
        shortCluster l rest r
      else
        match rest with
        | [] => r.await l s
        | '=' :: v => r.take l s [String.ofList v]
        | v => r.take l s [String.ofList v]

/-- A plain argument the level has no place for. After `--` a command's name gets a tip to drop
the dashes; at the top any other word is an unknown command, with the similar ones as tips. -/
def refusePlain (l : Level) (a : String) (plain : Bool) : ArgsOutcome :=
  if plain && l.isTop && commandNames.contains a then
    .usage (errorText ("unexpected argument '" ++ a ++ "' found")
      ["subcommand '" ++ a ++ "' exists; to use it, remove the '--' before it"] (some l.usage))
  else if l.isTop then
    let near := similarNames a commandNames
    let tips := match near with
      | [] => []
      | [one] => ["a similar subcommand exists: '" ++ one ++ "'"]
      | _ => ["some similar subcommands exist: " ++ ", ".intercalate (near.map fun n => "'" ++ n ++ "'")]
    .usage (errorText ("unrecognized subcommand '" ++ a ++ "'") tips (some l.usage))
  else .usage (errorText ("unexpected argument '" ++ a ++ "' found") [] (some l.usage))

def plainArgument (l : Level) (a : String) (r : Reading) : Except ArgsOutcome Reading :=
  if l.takesInput && !r.inputSeen then do
    let r ← r.settle l
    return { r with pending := some (.input a), inputSeen := true }
  else .error (refusePlain l a r.plain)

def splitLong (body : String) : String × Option String :=
  match body.splitOn "=" with
  | n :: v :: vs => (n, some ("=".intercalate (v :: vs)))
  | _ => (body, none)

/-- Read one `--name` argument. A flag given a value is an error whose usage line shows the
arguments taken in so far, the input apart, and the flag. -/
def longArgument (l : Level) (body : String) (r : Reading) (rest : List String) :
    Except ArgsOutcome Reading :=
  let (name, value) := splitLong body
  match l.switches.find? (·.long == some name) with
  | none => .error (unknownLong l name (r.settleAll l).1 rest)
  | some s =>
    if s.isFlag then
      match value with
      | some v =>
        let used := r.recorded.filter (· != inputId) ++ [s.id]
        .error (.usage (errorText ("unexpected value '" ++ v ++ "' for '" ++ s.shown ++
          "' found; no more were expected") [] (some (l.usageFor used))))
      | none => r.take l s []
    else
      match value with
      | some v => r.take l s [v]
      | none => r.await l s

/-- Read the arguments of one level until its end or the start of a command. A command's name
starts the command even where an option waits for its value. -/
def readLevel (l : Level) : List String → Reading → LevelEnd
  | [], r =>
    match r.settle l with
    | .error o => .stop o
    | .ok r => .done r
  | a :: rest, r =>
    let next (step : Except ArgsOutcome Reading) : LevelEnd :=
      match step with
      | .ok r => readLevel l rest r
      | .error o => .stop o
    if !r.plain && l.isTop && a == "help" then .helpCommand rest
    else if !r.plain && l.isTop && commandNames.contains a then
      match r.settle l with
      | .error o => .stop o
      | .ok r => .command r a rest
    else if !r.plain && a == "--" then readLevel l rest { r with plain := true }
    else if !r.plain && a.startsWith "--" then next (longArgument l (String.ofList (a.toList.drop 2)) r rest)
    else if !r.plain && a.startsWith "-" && a.length > 1 then next (shortCluster l (a.toList.drop 1) r)
    else
      match r.pending, r.plain with
      | some (.option s none), false => readLevel l rest { r with pending := some (.option s (some a)) }
      | _, _ => next (plainArgument l a r)

def topLevel : Level :=
  { name := programName, usage := topUsage, help := topHelp,
    switches := globalSwitches ++ [helpSwitch], takesInput := false, isTop := true,
    group := some ⟨programName, globalSwitches.map (·.id)⟩ }

def CommandSpec.level (c : CommandSpec) : Level :=
  let members := (if c.takesInput then [inputId] else []) ++ c.switches.map (·.id)
  { name := programName ++ " " ++ c.name, usage := c.usage, help := c.help,
    switches := c.switches ++ globalSwitches ++ [helpSwitch], takesInput := c.takesInput,
    isTop := false, group := if members.isEmpty then none else some ⟨c.name, members⟩ }

/-- The help the help command shows for the commands named after it. The help command itself
has no help flag, so its errors end without a pointer to one. -/
def helpFor : List String → ArgsOutcome
  | [] => .help topHelp
  | name :: more =>
    match commandSpecs.find? (·.name == name), more with
    | some c, [] => .help c.help
    | some c, extra :: _ =>
      .usage (errorText ("unrecognized subcommand '" ++ extra ++ "'") [] (some c.usage))
    | none, _ =>
      if name == "help" then
        match more with
        | [] => .help helpCommandHelp
        | extra :: _ =>
          .usage (errorReport ("unrecognized subcommand '" ++ extra ++ "'") [] (some helpUsage) false)
      else .usage (errorText ("unrecognized subcommand '" ++ name ++ "'") [] (some topUsage))

/-- The values of an option that applies everywhere: those given after the command win over
those given before it. -/
def mergeGlobal (top sub : Given) (id : String) : Option (List String) :=
  match sub.find? (·.1 == id) with
  | some (_, vs) => some vs
  | none => (top.find? (·.1 == id)).map (·.2)

def commandMissing : ArgsOutcome :=
  .usage (errorText ("'" ++ programName ++ "' requires a subcommand but one was not provided" ++
    "\n  [subcommands: " ++ ", ".intercalate commandNames ++ "]") [] (some topUsage))

/-- What a command's arguments ask for, once read. A missing input is an error whose usage line
shows the arguments given and the input. -/
def commandOf (spec : CommandSpec) (top r : Reading) : ArgsOutcome :=
  let level := spec.level
  match r.input, spec.takesInput with
  | none, true =>
    let groups := level.group.toList.map (·.name)
    let used := r.recorded.filter (fun id => !groups.contains id) ++ [inputId]
    .usage (errorText "the following required arguments were not provided:\n  <INPUT>" []
      (some (level.usageFor used)))
  | input, _ =>
    let flag (id : String) := r.given.has id
    let input := input.getD ""
    let command : Command := match spec.name with
      | "compile" => .compile input (flag "dump_tree") (flag "dump_products") (flag "json")
      | "render" => .render input
      | "watch" =>
        .watch input ((r.given.find? (·.1 == "max_polls")).bind fun (_, vs) =>
          vs.head?.bind fun v => (Config.readWord v).toOption)
      | _ => .config
    .run { command,
           configFile := (mergeGlobal top.given r.given "config").bind (·.getLast?),
           verbose := (mergeGlobal top.given r.given "verbose").isSome,
           definitions := (mergeGlobal top.given r.given "define").getD [] }

/-- Read a command line. With no argument taken in and no command, the help goes to standard
error. -/
def readArguments (args : List String) : ArgsOutcome :=
  match readLevel topLevel args {} with
  | .stop o => o
  | .done r => if r.recorded.isEmpty then .usage topHelp else commandMissing
  | .helpCommand rest => helpFor rest
  | .command top name rest =>
    match commandSpecs.find? (·.name == name) with
    | none => .usage (errorText ("unrecognized subcommand '" ++ name ++ "'") [] (some topUsage))
    | some spec =>
      match readLevel spec.level rest {} with
      | .stop o => o
      | .done r => commandOf spec top r
      | .command r _ _ => commandOf spec top r
      | .helpCommand _ => commandOf spec top {}

end CsgPreview.Cli
