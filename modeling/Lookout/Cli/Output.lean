import Lookout.Wire.Screen

/-! # Output
What a command gives out while it runs, in order: the lines of its answer, lines for people on the
error stream, and events for the log, which goes to the error stream as well. -/

namespace Lookout.Cli

/-- One thing that a command gives out. -/
inductive Output
  /-- Lines of the answer. -/
  | answer (text : String)
  /-- A line for people on the error stream. -/
  | notice (line : String)
  /-- An event for the log. -/
  | event (e : Event)
  deriving DecidableEq, Repr

namespace Output

/-- Events for the log. -/
def events (es : List Event) : List Output := es.map .event

/-- Whether an event reaches the log. -/
def isLogged (quiet : Bool) (e : Event) : Bool :=
  if quiet then e.level = .error else Level.info.rank ≤ e.level.rank

end Output

/-- How a command ended: what it gave out, and the message of the failure, if it failed. -/
structure Result where
  /-- What was given out. -/
  output : List Output
  /-- What went wrong. -/
  failure : Option String
  deriving DecidableEq, Repr

namespace Result

/-- A command that is done. -/
def success (output : List Output) : Result := ⟨output, none⟩

/-- A command that failed. -/
def failed (output : List Output) (message : String) : Result := ⟨output, some message⟩

/-- A failure that has a complaint of its own, with a line about it. -/
def complaint (line : String) (c : Complaint) : Result :=
  failed [.notice line, .event (.ofComplaint c)] c.message

/-- A command with something given out before. -/
def after (earlier : List Output) (r : Result) : Result := { r with output := earlier ++ r.output }

end Result

end Lookout.Cli
