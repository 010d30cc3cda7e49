import Lookout.Json.Value
import Lookout.Time.Timestamp

/-! # What the platform holds
The records the dashboard shows: the **rows** of the entity listing and the **pages** they come in,
the **suggestions** of the filter panel, and the **runs** of background tasks. -/

namespace Lookout

/-- A **row** of the listing: one entity. Rows are told apart by their names. -/
structure Row where
  /-- A number the platform gave it. -/
  id : UInt64
  /-- The name, by which it is known everywhere. -/
  name : String
  /-- What kind of entity it is. -/
  type : String
  /-- What it is for. -/
  description : String
  /-- The status, in the platform's own words. -/
  status : String
  /-- The tags it carries. -/
  tags : List String
  /-- The labels it carries. -/
  labels : List String
  /-- The features it uses. -/
  features : List String
  /-- Further properties by key, in ascending order of the keys. -/
  properties : List (String × Json.Value)
  deriving DecidableEq, Repr, Inhabited

/-- Whether an entity can be used. -/
def Row.isReady (r : Row) : Bool := r.status = "READY" || r.status = "CREATED"

/-- A **page**: some of the rows that match, and how many match in all. -/
structure Page where
  /-- The rows of this page. -/
  data : List Row
  /-- The number of rows on all pages. -/
  count : UInt64
  deriving DecidableEq, Repr, Inhabited

/-- A **suggestion**: a value the filter panel offers. -/
structure Suggestion where
  /-- The value. -/
  name : String
  deriving DecidableEq, Repr, Inhabited

/-- The **kind** of a list of suggestions. -/
inductive SuggestionKind
  | tags
  | labels
  | features
  deriving DecidableEq, Repr, Inhabited

namespace SuggestionKind

/-- The kinds in their fixed order. -/
def all : List SuggestionKind := [.tags, .labels, .features]

theorem mem_all (k : SuggestionKind) : k ∈ all := by cases k <;> decide

/-- The name a kind goes by in requests. -/
def name : SuggestionKind → String
  | .tags => "tags"
  | .labels => "labels"
  | .features => "features"

end SuggestionKind

/-- The **status** of a run. -/
inductive RunStatus
  | pending
  | running
  | success
  | failed
  | cancelled
  deriving DecidableEq, Repr, Inhabited

namespace RunStatus

/-- The statuses in the order a run can go through them. -/
def all : List RunStatus := [.pending, .running, .success, .failed, .cancelled]

/-- The word for a status. -/
def name : RunStatus → String
  | .pending => "PENDING"
  | .running => "RUNNING"
  | .success => "SUCCESS"
  | .failed => "FAILED"
  | .cancelled => "CANCELLED"

/-- Whether a run with this status has ended for good. -/
def isTerminal : RunStatus → Bool
  | .pending | .running => false
  | .success | .failed | .cancelled => true

end RunStatus

/-- A **target**: which run of which task is meant. -/
structure Target where
  /-- The task. -/
  taskId : String
  /-- The run of the task. -/
  runId : String
  deriving DecidableEq, Repr, Inhabited

/-- A target as people are shown it. -/
def Target.display (t : Target) : String := t.taskId ++ "/" ++ t.runId

/-- A **run** of a background task. -/
structure Run where
  /-- The task it is a run of. -/
  taskId : String
  /-- Which of the task's runs it is. -/
  runId : String
  /-- What the task is called. -/
  name : String
  /-- How far it has come. -/
  status : RunStatus
  /-- When it started. -/
  startTime : Option Timestamp
  /-- When it ended. -/
  endTime : Option Timestamp
  /-- The lines it has logged so far. -/
  logs : List String
  /-- What went wrong. -/
  error : Option String
  deriving DecidableEq, Repr, Inhabited

namespace Run

/-- Which run of which task this is. -/
def target (r : Run) : Target := ⟨r.taskId, r.runId⟩

/-- Whether the run has ended for good. -/
def isTerminal (r : Run) : Bool := r.status.isTerminal

end Run

end Lookout
