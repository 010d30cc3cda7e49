import Lookout.Screen
import Lookout.Polling.State
import Lookout.Wire.Criteria
import Lookout.Wire.Platform

/-! # What is shown, on the wire
How views, panels, poll states and events are written as JSON. -/

namespace Lookout

open Json

namespace Listing

/-- Write a navigation. -/
def Navigation.toTree (n : Navigation) : Tree := .record [
  ("row_id", .text n.rowId),
  ("path", .text n.path)]

/-- Write an empty state. -/
def EmptyState.toTree (e : EmptyState) : Tree := .record [
  ("kind", .text e.name),
  ("message", .text e.message)]

/-- Write a view. -/
def View.toTree (v : View) : Tree := .record [
  ("rows", .list Row.toTree v.rows),
  ("total_count", .nat v.totalCount.toNat),
  ("loading", .bool v.loading),
  ("is_filtered", .bool v.isFiltered),
  ("criteria", v.criteria.toTree),
  ("last_error", .optional .text v.lastError),
  ("empty_state", .optional EmptyState.toTree v.emptyState)]

end Listing

namespace Suggestions

/-- Write the lists of the panel. -/
def Lists.toTree (l : Lists) : Tree := .record [
  ("tags", .list (fun name => Suggestion.toTree ⟨name⟩) l.tags),
  ("labels", .list .text l.labels),
  ("features", .list .text l.features)]

/-- Write a panel. -/
def Panel.toTree (p : Panel) : Tree := .record [
  ("lists", p.lists.toTree),
  ("pending", .list SuggestionKind.toTree p.pending)]

end Suggestions

/-- Write a poll state. -/
def Polling.State.toTree (s : Polling.State) : Tree := .record [
  ("phase", .text s.phase.name),
  ("last_good", .optional Run.toTree s.lastGood),
  ("last_error", .optional .text s.lastError),
  ("completed_fetches", .nat s.completed)]

/-- Write a target. -/
def Target.toTree (t : Target) : Tree := .record [
  ("task_id", .text t.taskId),
  ("run_id", .text t.runId)]

/-- Write an event. -/
def Event.toTree (e : Event) : Tree :=
  let r := e.record
  .record (("event", .text r.name) :: ("level", .text r.level.name) :: r.fields)

end Lookout
