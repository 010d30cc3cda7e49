import Lookout.Cli.Command

/-! # Command-line arguments
What a command line asks for. Options may stand anywhere after the command they belong to, and those
of every command before it as well. An option that takes a value takes it from the same argument, or
waits for the next one; what waits is only looked at when something else comes, which decides which of
several mistakes is reported. `Invocation.parse` reads a command line. -/

namespace Lookout.Cli

/-! ## Options -/

/-- An **option** or a positional argument. -/
inductive Opt
  /-- Help on a topic. -/
  | help (t : Topic)
  /-- The version of the program. -/
  | version
  /-- Less in the log. -/
  | quiet
  /-- The file with the snapshot. -/
  | data
  /-- A text to search for. -/
  | search
  /-- A value of a facet. -/
  | facet (f : Facet)
  /-- A page. -/
  | page
  /-- A page size. -/
  | pageSize
  /-- An answer in JSON. -/
  | json
  /-- How many good refreshes are enough. -/
  | refreshes
  /-- The milliseconds between two refreshes. -/
  | interval
  /-- The task of the run to watch. -/
  | taskId
  /-- The run to watch. -/
  | runId
  /-- The shell to complete for. -/
  | shell
  deriving DecidableEq, Repr

/-- How often an option may be given, and with what. -/
inductive Arity
  /-- Without a value, once. -/
  | flag
  /-- With a value, once. -/
  | single
  /-- With a value, any number of times. -/
  | many
  deriving DecidableEq, Repr

/-- The number that a text stands for: digits with a plus sign or, if allowed, a minus sign. -/
def number? (signed : Bool) (s : String) : Option Int :=
  let digits (ds : List Char) : Option Nat :=
    if ds.isEmpty || !ds.all Char.isDigit then none
    else some (ds.foldl (fun n d => 10 * n + (d.toNat - 48)) 0)
  match s.toList with
  | '+' :: ds => (digits ds).map Int.ofNat
  | '-' :: ds => if signed then (digits ds).map fun n => -(n : Int) else none
  | ds => (digits ds).map Int.ofNat

/-- The number that a text stands for, if it lies in a range. -/
def numberIn? (signed : Bool) (low high : Int) (s : String) : Option Int :=
  (number? signed s).bind fun i => if low ≤ i ∧ i ≤ high then some i else none

/-- The page that a text stands for. -/
def page? (s : String) : Option Int64 := (numberIn? true 0 9223372036854775807 s).map Int64.ofInt

/-- The page size that a text stands for. -/
def pageSize? (s : String) : Option PageSize :=
  (numberIn? true 1 4294967295 s).bind fun i => PageSize.ofUInt32? (UInt32.ofNat i.toNat)

/-- The positive number that a text stands for. -/
def count? (s : String) : Option UInt64 :=
  (numberIn? false 1 18446744073709551615 s).map fun i => UInt64.ofNat i.toNat

namespace Opt

/-- How often an option may be given, and with what. -/
def arity : Opt → Arity
  | .help _ | .version | .quiet | .json => .flag
  | .facet _ => .many
  | _ => .single

/-- Why a value cannot be given to an option. -/
def refusal? (o : Opt) (value : String) : Option Refusal :=
  match o with
  | .data => if value = "" then some .invalidValue else none
  | .shell => if (Shell.ofName? value).isNone then some .invalidValue else none
  | .page => if (page? value).isNone then some .valueValidation else none
  | .pageSize => if (pageSize? value).isNone then some .valueValidation else none
  | .refreshes | .interval => if (count? value).isNone then some .valueValidation else none
  | _ => none

end Opt

/-- A **level** of the command line: the program itself, or a command. -/
structure Level where
  /-- The options with long names. -/
  longs : List (String × Opt)
  /-- The options with short names. -/
  shorts : List (Char × Opt)
  /-- The positional arguments, all of which must be given. -/
  positionals : List Opt
  /-- The names of commands. -/
  commands : List String

namespace Level

/-- The options of every level with long names, and the help that there is for it. -/
def commonLongs (t : Topic) : List (String × Opt) :=
  [("help", .help t), ("quiet", .quiet), ("data", .data)]

/-- The options of every level with short names, and the help that there is for it. -/
def commonShorts (t : Topic) : List (Char × Opt) := [('h', .help t), ('q', .quiet)]

/-- The program itself. -/
def root : Level where
  longs := ("version", .version) :: commonLongs (.program true)
  shorts := ('V', .version) :: commonShorts (.program false)
  positionals := []
  commands := commandNames

/-- The command `list`. -/
def list : Level where
  longs := [("search", .search), ("status", .facet .statuses), ("tag", .facet .tags),
    ("label", .facet .labels), ("feature", .facet .features), ("page", .page),
    ("page-size", .pageSize), ("json", .json)] ++ commonLongs (.command "list")
  shorts := [('s', .search), ('p', .page)] ++ commonShorts (.command "list")
  positionals := []
  commands := []

/-- The command `watch`. -/
def watch : Level where
  longs := [("refreshes", .refreshes), ("interval-ms", .interval)] ++ commonLongs (.command "watch")
  shorts := ('n', .refreshes) :: commonShorts (.command "watch")
  positionals := [.taskId, .runId]
  commands := []

/-- The command `completions`. -/
def completions : Level where
  longs := commonLongs (.command "completions")
  shorts := commonShorts (.command "completions")
  positionals := [.shell]
  commands := []

end Level

/-! ## Scanning a level -/

/-- What was found on a level so far. -/
structure Scan where
  /-- The options given, with their values, oldest first; a flag has no value. -/
  given : List (Opt × Option String)
  /-- An option that is not looked at yet, and its value, if it has one. -/
  pending : Option (Opt × Option String)
  /-- Whether the next argument can be the value of the pending option. -/
  expecting : Bool
  /-- The positional arguments that were not given yet. -/
  left : List Opt
  /-- Whether all that follows is positional. -/
  trailing : Bool

namespace Scan

/-- Nothing was found yet. -/
def initial (l : Level) : Scan := ⟨[], none, false, l.positionals, false⟩

/-- Whether an option was given. -/
def has (s : Scan) (o : Opt) : Bool := s.given.any (·.1 = o)

/-- The first value that was given to an option. -/
def value? (s : Scan) (o : Opt) : Option String := (s.given.lookup o).bind id

/-- All values that were given to an option. -/
def values (s : Scan) (o : Opt) : List String :=
  s.given.filterMap fun (p, v) => if p = o then v else none

/-- Look at an option with its value. -/
def accept (s : Scan) (o : Opt) (value : Option String) : Except Refusal Scan :=
  match o with
  | .help t => .error (.displayHelp t)
  | .version => .error .displayVersion
  | o =>
    if o.arity ≠ .flag && value.isNone then .error .invalidValue
    else if o.arity ≠ .many && s.has o then .error .argumentConflict
    else
      match value.bind o.refusal? with
      | some r => .error r
      | none => .ok { s with given := s.given ++ [(o, value)] }

/-- Look at the option that is pending. -/
def flush (s : Scan) : Except Refusal Scan :=
  match s.pending with
  | none => .ok s
  | some (o, value) => { s with pending := none, expecting := false }.accept o value

/-- Look at what is pending, and then at an option that needs nothing more. -/
def complete (s : Scan) (o : Opt) (value : Option String) : Except Refusal Scan :=
  s.flush.bind fun s => s.accept o value

/-- Look at what is pending, and let an option wait for its value. -/
def await (s : Scan) (o : Opt) : Except Refusal Scan :=
  s.flush.map fun s => { s with pending := some (o, none), expecting := true }

/-- An option by its long name, with the value that was attached to it. -/
def long (l : Level) (s : Scan) (name : String) (value : Option String) : Except Refusal Scan :=
  match l.longs.lookup name, value with
  | none, _ => .error .unknownArgument
  | some o, some v => if o.arity = .flag then .error .tooManyValues else s.complete o (some v)
  | some o, none => if o.arity = .flag then s.complete o none else s.await o

/-- Options by their short names; the first that takes a value takes the rest for it. -/
def shorts (l : Level) (s : Scan) : List Char → Except Refusal Scan
  | [] => .ok s
  | c :: cs =>
    match l.shorts.lookup c with
    | none => .error .unknownArgument
    | some o =>
      if o.arity = .flag then (s.complete o none).bind fun s => s.shorts l cs
      else
        match cs with
        | [] => s.await o
        | '=' :: value => s.complete o (some (String.ofList value))
        | value => s.complete o (some (String.ofList value))

/-- A positional argument, or one that is in the wrong place. -/
def positional (l : Level) (s : Scan) (arg : String) : Except Refusal Scan :=
  match s.left with
  | o :: left => s.flush.map fun s => { s with pending := some (o, some arg), left := left }
  | [] =>
    if l.commands.isEmpty then .error .unknownArgument
    else if s.trailing && arg ∈ l.commands then .error .unknownArgument
    else .error .invalidSubcommand

/-- The name and the value of a long option. -/
def splitLong (cs : List Char) : String × Option String :=
  let name := cs.takeWhile (· ≠ '=')
  match cs.dropWhile (· ≠ '=') with
  | [] => (String.ofList name, none)
  | _ :: value => (String.ofList name, some (String.ofList value))

/-- An argument that names no command. -/
def step (l : Level) (s : Scan) (arg : String) : Except Refusal Scan :=
  if s.trailing then s.positional l arg
  else
    match arg.toList with
    | ['-', '-'] => .ok { s with trailing := true }
    | '-' :: '-' :: cs =>
      let (name, value) := splitLong cs
      s.long l name value
    | '-' :: c :: cs => s.shorts l (c :: cs)
    | _ =>
      match s.pending, s.expecting with
      | some (o, _), true => .ok { s with pending := some (o, some arg), expecting := false }
      | _, _ => s.positional l arg

/-- Whether an argument names a command. -/
def isCommand (l : Level) (s : Scan) (arg : String) : Bool :=
  !s.trailing && !s.expecting && arg ∈ l.commands

/-- Go through the arguments of a level, up to the name of a command. -/
def run (l : Level) (s : Scan) : List String → Except Refusal (Scan × Option (String × List String))
  | [] => .ok (s, none)
  | arg :: rest =>
    if s.isCommand l arg then .ok (s, some (arg, rest))
    else
      match s.step l arg with
      | .error r => .error r
      | .ok s => s.run l rest

end Scan

/-! ## Invocations -/

/-- The arguments of a command, none of which may be missing. -/
def scanCommand (l : Level) (args : List String) : Except Refusal Scan := do
  let (s, _) ← (Scan.initial l).run l args
  let s ← s.flush
  if s.left.isEmpty then .ok s else .error .missingRequired

/-- What `list` was asked for. -/
def listOptions (s : Scan) : ListOptions where
  search := s.value? .search
  wanted f := s.values (.facet f)
  page := (s.value? .page).bind page?
  pageSize := (s.value? .pageSize).bind pageSize?
  json := s.has .json

/-- What `watch` was asked for. -/
def watchOptions (s : Scan) : WatchOptions where
  target := ⟨(s.value? .taskId).getD "", (s.value? .runId).getD ""⟩
  refreshes := (s.value? .refreshes).bind count?
  interval := (s.value? .interval).bind count?

/-- A command with its arguments. -/
def readCommand (name : String) (args : List String) : Except Refusal (Scan × Command) :=
  match name with
  | "list" => (scanCommand .list args).map fun s => (s, .list (listOptions s))
  | "watch" => (scanCommand .watch args).map fun s => (s, .watch (watchOptions s))
  | "completions" => (scanCommand .completions args).bind fun s =>
    match (s.value? .shell).bind Shell.ofName? with
    | some shell => .ok (s, .completions shell)
    | none => .error .invalidValue
  | _ =>
    -- The only other command is `help`, which takes the name of at most one command.
    match args with
    | [] => .error (.displayHelp (.program true))
    | [other] =>
      if other ∈ commandNames then .error (.displayHelp (.command other))
      else .error .invalidSubcommand
    | _ => .error .invalidSubcommand

/-- **Read** a command line. Options of every command count wherever they stand, the later place
winning. -/
def Invocation.parse (args : List String) : Except Refusal Invocation := do
  let (root, found) ← (Scan.initial .root).run .root args
  match found with
  | some (name, rest) =>
    let (s, c) ← readCommand name rest
    let root ← root.flush
    return ⟨root.has .quiet || s.has .quiet, (s.value? .data).or (root.value? .data), c⟩
  | none =>
    let root ← root.flush
    if root.given.isEmpty then .error .displayHelpOnMissing else .error .missingSubcommand

end Lookout.Cli
