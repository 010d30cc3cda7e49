import Lookout.Cli.Command

/-! # Help
What the program says about itself: its version, how each command is used, and what its options are
for. The options of a command are listed in a table, whose first column is as wide as its longest
entry; in detail, each explanation has a line of its own. -/

namespace Lookout.Cli

/-- The version of the program. -/
def version : String := "0.1.0"

/-- The name of the program. -/
def programName : String := "runwatch"

/-- What is printed about the version. -/
def versionText : String := programName ++ " " ++ version ++ "\n"

/-- An entry of a page: how something is written, and what it is for. -/
structure HelpEntry where
  /-- How it is written. -/
  usage : String
  /-- What it is for. -/
  meaning : String
  deriving DecidableEq, Repr

/-- A part of a page. -/
structure HelpPart where
  /-- The title. -/
  title : String
  /-- The entries. -/
  entries : List HelpEntry
  deriving DecidableEq, Repr

namespace HelpPart

/-- The width of the first column. -/
def width (p : HelpPart) : Nat := p.entries.foldl (fun n e => max n e.usage.length) 0

/-- The lines of a table with a part in it. -/
def tableLines (p : HelpPart) : List String :=
  (p.title ++ ":") :: p.entries.map fun e =>
    "  " ++ e.usage ++ String.ofList (List.replicate (p.width + 2 - e.usage.length) ' ') ++ e.meaning

/-- The lines of a part in detail, with a blank line between two entries. -/
def detailedLines (p : HelpPart) : List String :=
  (p.title ++ ":") :: List.intercalate [""] (p.entries.map fun e =>
    ["  " ++ e.usage, "          " ++ e.meaning])

end HelpPart

/-- A page of help. -/
structure HelpPage where
  /-- What it is about. -/
  about : String
  /-- How it is used. -/
  usage : String
  /-- The parts of the page, as lines. -/
  parts : List (List String)
  deriving DecidableEq, Repr

/-- A page as text. -/
def HelpPage.text (p : HelpPage) : String :=
  let blocks := [p.about] :: ["Usage: " ++ programName ++ " " ++ p.usage] :: p.parts
  String.join ((List.intercalate [""] blocks).map (· ++ "\n"))

namespace Topic

/-- What the commands are for. -/
def commands : HelpPart where
  title := "Commands"
  entries := [
    ⟨"list", "List entities matching the given filters"⟩,
    ⟨"watch", "Follow a task run until it finishes"⟩,
    ⟨"completions", "Generate shell completion scripts"⟩,
    ⟨"help", "Print this message or the help of the given subcommand(s)"⟩]

/-- The option for less in the log. -/
def quietOption : HelpEntry := ⟨"-q, --quiet", "Only log errors"⟩

/-- The option for the snapshot. -/
def dataOption : HelpEntry := ⟨"    --data <FILE>", "Platform snapshot to serve (overrides config)"⟩

/-- The option for help. -/
def helpOption : HelpEntry := ⟨"-h, --help", "Print help"⟩

/-- The options of the program itself. -/
def programOptions (detailed : Bool) : HelpPart where
  title := "Options"
  entries := [
    quietOption,
    dataOption,
    ⟨"-h, --help", "Print help (see " ++ (if detailed then "a summary with '-h'" else "more with '--help'")
      ++ ")"⟩,
    ⟨"-V, --version", "Print version"⟩]

/-- The options of `list`. -/
def listOptions : HelpPart where
  title := "Options"
  entries := [
    quietOption,
    ⟨"-s, --search <search>", "Case-insensitive name search"⟩,
    dataOption,
    ⟨"    --status <status>", "Keep entities with this status (repeatable)"⟩,
    ⟨"    --tag <tag>", "Keep entities carrying this tag (repeatable)"⟩,
    ⟨"    --label <label>", "Keep entities carrying this label (repeatable)"⟩,
    ⟨"    --feature <feature>", "Keep entities using this feature (repeatable)"⟩,
    ⟨"-p, --page <page>", "Zero-based page index"⟩,
    ⟨"    --page-size <page-size>", "Rows per page (overrides config)"⟩,
    ⟨"    --json", "Output in JSON format"⟩,
    helpOption]

/-- The options of `watch`. -/
def watchOptions : HelpPart where
  title := "Options"
  entries := [
    quietOption,
    dataOption,
    ⟨"-n, --refreshes <refreshes>", "Stop after this many successful refreshes"⟩,
    ⟨"    --interval-ms <interval-ms>", "Milliseconds between refreshes (overrides config)"⟩,
    helpOption]

/-- The options of `completions`. -/
def completionsOptions : HelpPart where
  title := "Options"
  entries := [quietOption, dataOption, helpOption]

/-- What the program is for. -/
def summary : String := "Browse platform entities and watch background task runs"

/-- What the program is for, in detail. -/
def description : String :=
  "runwatch queries a platform's entity listing with search, facet filters and pagination, "
    ++ "and follows a single task run until it finishes. Data comes from a JSON snapshot of the "
    ++ "platform passed with --data or configured in .runwatch/config.toml."

/-- The page on a topic. -/
def page : Topic → HelpPage
  | .program true => ⟨description, "[OPTIONS] <COMMAND>",
      [commands.tableLines, (programOptions true).detailedLines]⟩
  | .program false => ⟨summary, "[OPTIONS] <COMMAND>",
      [commands.tableLines, (programOptions false).tableLines]⟩
  | .command "list" => ⟨"List entities matching the given filters", "list [OPTIONS]",
      [listOptions.tableLines]⟩
  | .command "watch" => ⟨"Follow a task run until it finishes", "watch [OPTIONS] <task-id> <run-id>",
      [HelpPart.tableLines ⟨"Arguments",
        [⟨"<task-id>", "Task the run belongs to"⟩, ⟨"<run-id>", "Run to follow"⟩]⟩,
        watchOptions.tableLines]⟩
  | .command "completions" => ⟨"Generate shell completion scripts", "completions [OPTIONS] <shell>",
      [HelpPart.tableLines ⟨"Arguments", [⟨"<shell>", "Target shell [possible values: "
        ++ String.intercalate ", " (Shell.all.map Shell.name) ++ "]"⟩]⟩,
        completionsOptions.tableLines]⟩
  | .command _ => ⟨"Print this message or the help of the given subcommand(s)", "help [COMMAND]...",
      [HelpPart.tableLines ⟨"Arguments", [⟨"[COMMAND]...", "Print help for the subcommand(s)"⟩]⟩]⟩

end Topic

namespace Refusal

/-- What is wrong with a command line. -/
def complaint : Refusal → String
  | .missingSubcommand => "a subcommand is required but one was not provided"
  | .missingRequired => "the required arguments were not provided"
  | .unknownArgument => "unexpected argument found"
  | .invalidSubcommand => "unrecognized subcommand"
  | .invalidValue => "a value is missing or is not one of the possible values"
  | .valueValidation => "invalid value for an argument"
  | .argumentConflict => "an argument cannot be used multiple times"
  | .tooManyValues => "unexpected value for an argument"
  | .displayHelp _ | .displayVersion | .displayHelpOnMissing => ""

/-- What is printed instead of running a command. -/
def text (r : Refusal) : String :=
  match r with
  | .displayHelp t => t.page.text
  | .displayHelpOnMissing => (Topic.program false).page.text
  | .displayVersion => versionText
  | r => "error: " ++ r.complaint ++ "\n\nFor more information, try '--help'.\n"

end Refusal

end Lookout.Cli
