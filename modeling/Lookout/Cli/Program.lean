import Lookout.Config.Layers
import Lookout.Cli.Help
import Lookout.Cli.Listing
import Lookout.Cli.Watch

/-! # The program
Every command that shows something first loads the configuration (`configure`) and then opens the
snapshot (`openBackend`); either can be where it ends. `program` is the whole program as a function
of what is found in the files, for as many refreshes as wanted. -/

namespace Lookout.Cli

/-! ## Getting ready -/

/-- The configuration in force, with the snapshot that was asked for on the command line. -/
def loadConfig (data : Option String) (layers : List Layer) : Except ConfigError Config × List Event :=
  let (loaded, es) := Config.load layers
  (loaded.bind fun c => { c with snapshotPath := data.or c.snapshotPath }.validate, es)

/-- The configuration for a command, or how the command ends without one. -/
def configure (data : Option String) (layers : List Layer) : Except Result (Config × List Output) :=
  match loadConfig data layers with
  | (.ok c, es) => .ok (c, Output.events es)
  | (.error e, es) =>
    .error ((Result.complaint ("Failed to load configuration: " ++ e.message) e.complaint).after
      (Output.events es))

/-- The path of the snapshot to show, or how the command ends without one. -/
def snapshotPath (c : Config) : Except Result String :=
  match c.snapshotPath with
  | some path => .ok path
  | none =>
    let e := ConfigError.missingSnapshot
    .error (.complaint e.message e.complaint)

/-- The backend for what was found under a path, or how the command ends without one. -/
def openBackend (c : Config) (path : String) (file : Except ReadFault String) :
    Except Result (Backend × List Output) :=
  match Backend.load path file with
  | .ok (b, e) =>
    .ok ({ b with latency := c.effectiveLatency },
      Output.events [e, .backendOpened path c.effectiveLatency])
  | .error e => .error (.complaint ("Failed to load platform data: " ++ e.message) e.complaint)

/-- The configuration with the page size that was asked for. -/
def withPageSize (c : Config) (p : Option PageSize) : Config :=
  { c with pageSize := (p.map PageSize.val).or c.pageSize }

/-! ## Completions -/

/-- The script that makes a shell complete the names of the commands. -/
def completionScript (s : Shell) : String :=
  let words := String.intercalate " " commandNames
  let quoted := String.intercalate ", " (commandNames.map fun w => "'" ++ w ++ "'")
  match s with
  | .bash => "complete -W \"" ++ words ++ "\" " ++ programName ++ "\n"
  | .elvish =>
    "set edit:completion:arg-completer[" ++ programName ++ "] = \x7b|@words| put " ++ words ++ " \x7d\n"
  | .fish => "complete -c " ++ programName ++ " -f -a \"" ++ words ++ "\"\n"
  | .powershell =>
    "Register-ArgumentCompleter -Native -CommandName '" ++ programName
      ++ "' -ScriptBlock \x7b param($word) @(" ++ quoted
      ++ ") | Where-Object \x7b $_ -like \"$word*\" \x7d \x7d\n"
  | .zsh => "#compdef " ++ programName ++ "\ncompadd " ++ words ++ "\n"

/-! ## Running -/

/-- What the program finds in its files. -/
structure Files where
  /-- The layers of the configuration. -/
  layers : List Layer
  /-- What is found under a path when it is read for the first time. -/
  read : String → Except ReadFault String

/-- What becomes of a command once everything it needs is there. -/
inductive Stage
  /-- It is done. -/
  | done (r : Result)
  /-- It goes on watching; this is what it has given out so far, and the path to read again. -/
  | watching (output : List Output) (path : String) (w : Watch)

/-- A stage with something given out before. -/
def Stage.after (earlier : List Output) : Stage → Stage
  | .done r => .done (r.after earlier)
  | .watching output path w => .watching (earlier ++ output) path w

/-- Load the configuration, change it as the command asks, open the snapshot, and go on with both. -/
def withBackend (files : Files) (data : Option String) (change : Config → Config)
    (next : Config → String → Backend → Stage) : Stage :=
  match configure data files.layers with
  | .error r => .done r
  | .ok (c, out) =>
    let c := change c
    match snapshotPath c with
    | .error r => .done (r.after out)
    | .ok path =>
      match openBackend c path (files.read path) with
      | .error r => .done (r.after out)
      | .ok (b, opened) => (next c path b).after (out ++ opened)

/-- Begin a command. -/
def begin (files : Files) (data : Option String) : Command → Stage
  | .list o =>
    (withBackend files data (withPageSize · o.pageSize) fun c _ b => .done (runList c b o)).after
      [.event (.listStarted o.json)]
  | .watch o =>
    withBackend files data id fun c path b =>
      let (w, started) := Watch.start c b o
      .watching started path w
  | .completions shell =>
    .done (.success [.event (.completionsStarted shell.name), .answer (completionScript shell)])

/-- The configuration that a command works with and the path of its snapshot, if it has one. -/
def Invocation.source? (i : Invocation) (layers : List Layer) : Option (Config × String) :=
  match i.command, configure i.data layers with
  | .completions _, _ | _, .error _ => none
  | _, .ok (c, _) => c.snapshotPath.map fun path => (c, path)

/-- What the program gives out before a command. -/
def opening (c : Command) : List Output := [.event (.appStarted version c.name)]

/-- What the program gives out after a command. -/
def closing (c : Command) (failure : Option String) : List Output :=
  .event (.appStopping c.name failure.isNone)
    :: (failure.map fun message => Output.event (.exitFailed message)).toList

/-- A result with what the program gives out after it. -/
def Result.close (c : Command) (r : Result) : Result := ⟨r.output ++ closing c r.failure, r.failure⟩

/-- Begin the program. -/
def start (files : Files) (i : Invocation) : Stage :=
  (begin files i.data i.command).after (opening i.command)

/-- The whole program, for at most so many refreshes of a watched run; `none` if it goes on after
them. The snapshot is read again for every refresh, `rereads` being what is found then. -/
def program (files : Files) (rereads : String → Nat → Except ReadFault String) (i : Invocation)
    (refreshes : Nat) : Option Result :=
  match start files i with
  | .done r => some (r.close i.command)
  | .watching output path w =>
    (w.run (rereads path) refreshes 0).map fun r => (r.after output).close i.command

end Lookout.Cli
