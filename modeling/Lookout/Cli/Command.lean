import Lookout.Criteria
import Lookout.Platform

/-! # Commands
What the program can be asked for: a **command** with its options, and an **invocation**, which is a
command with the options that all commands have. A command line that asks for neither is refused, for
one of the reasons in `Refusal`; asking for help or for the version counts as a refusal too. -/

namespace Lookout.Cli

/-- A **shell** for which there are completions. -/
inductive Shell
  | bash
  | elvish
  | fish
  | powershell
  | zsh
  deriving DecidableEq, Repr

namespace Shell

/-- The shells. -/
def all : List Shell := [.bash, .elvish, .fish, .powershell, .zsh]

/-- The name of a shell. -/
def name : Shell → String
  | .bash => "bash"
  | .elvish => "elvish"
  | .fish => "fish"
  | .powershell => "powershell"
  | .zsh => "zsh"

/-- The shell with a name. -/
def ofName? (s : String) : Option Shell := all.find? (·.name = s)

end Shell

/-- What the command `list` is asked for. -/
structure ListOptions where
  /-- A text to search for. -/
  search : Option String
  /-- The values wanted in each facet, as often as they were given. -/
  wanted : Facet → List String
  /-- A page. -/
  page : Option Int64
  /-- A page size. -/
  pageSize : Option PageSize
  /-- Whether the answer is wanted as JSON. -/
  json : Bool

/-- What the command `watch` is asked for. -/
structure WatchOptions where
  /-- The run to watch. -/
  target : Target
  /-- After how many good refreshes to stop. -/
  refreshes : Option UInt64
  /-- The milliseconds between two refreshes. -/
  interval : Option UInt64

/-- A **command**. -/
inductive Command
  | list (o : ListOptions)
  | watch (o : WatchOptions)
  | completions (shell : Shell)

/-- The names of the commands; `help` is about the others. -/
def commandNames : List String := ["list", "watch", "completions", "help"]

/-- The name of a command. -/
def Command.name : Command → String
  | .list _ => "list"
  | .watch _ => "watch"
  | .completions _ => "completions"

/-- An **invocation**: a command with the options that all commands have. -/
structure Invocation where
  /-- Whether only errors are logged. -/
  quiet : Bool
  /-- The file with the snapshot to show. -/
  data : Option String
  /-- The command. -/
  command : Command

/-- What help can be asked for. -/
inductive Topic
  /-- The program itself, in short or in detail. -/
  | program (detailed : Bool)
  /-- A command, by its name. -/
  | command (name : String)
  deriving DecidableEq, Repr

/-- Why a command line leads to no command. -/
inductive Refusal
  /-- Help is asked for. -/
  | displayHelp (t : Topic)
  /-- The version is asked for. -/
  | displayVersion
  /-- Nothing is asked for. -/
  | displayHelpOnMissing
  /-- There are options, but no command. -/
  | missingSubcommand
  /-- An argument that must be given is missing. -/
  | missingRequired
  /-- An argument is not known. -/
  | unknownArgument
  /-- There is no such command. -/
  | invalidSubcommand
  /-- A value is missing or not one of those possible. -/
  | invalidValue
  /-- A value is no number of the right range. -/
  | valueValidation
  /-- An option is given twice. -/
  | argumentConflict
  /-- An option that takes no value has one. -/
  | tooManyValues
  deriving DecidableEq, Repr

namespace Refusal

/-- The word for a refusal. -/
def name : Refusal → String
  | .displayHelp _ => "DisplayHelp"
  | .displayVersion => "DisplayVersion"
  | .displayHelpOnMissing => "DisplayHelpOnMissingArgumentOrSubcommand"
  | .missingSubcommand => "MissingSubcommand"
  | .missingRequired => "MissingRequiredArgument"
  | .unknownArgument => "UnknownArgument"
  | .invalidSubcommand => "InvalidSubcommand"
  | .invalidValue => "InvalidValue"
  | .valueValidation => "ValueValidation"
  | .argumentConflict => "ArgumentConflict"
  | .tooManyValues => "TooManyValues"

/-- The exit code of the program. -/
def exitCode : Refusal → Nat
  | .displayHelp _ | .displayVersion => 0
  | _ => 2

end Refusal

end Lookout.Cli
