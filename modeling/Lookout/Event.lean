import Lookout.Criteria
import Lookout.Platform.Failure
import Lookout.Json.Printer

/-! # Events
What the components report while they work. An **event** is typed; `Event.record` is its form in the
log: a level, a name and named fields. Which events reach the log depends on the lowest level asked
for. -/

namespace Lookout

/-- The **level** of an event, by how much it matters. -/
inductive Level
  | debug
  | info
  | warn
  | error
  deriving DecidableEq, Repr

namespace Level

/-- The word for a level. -/
def name : Level → String
  | .debug => "DEBUG"
  | .info => "INFO"
  | .warn => "WARN"
  | .error => "ERROR"

/-- How much a level matters. -/
def rank : Level → Nat
  | .debug => 0
  | .info => 1
  | .warn => 2
  | .error => 3

end Level

/-- What made a poller fetch. -/
inductive Trigger
  /-- The poller was mounted. -/
  | activated
  /-- Somebody asked for it. -/
  | manual
  /-- The timer ran out. -/
  | tick
  deriving DecidableEq, Repr

/-- The word for a trigger. -/
def Trigger.name : Trigger → String
  | .activated => "activated"
  | .manual => "manual_trigger"
  | .tick => "timer_tick"

/-- Why a watch ended. -/
inductive WatchEnd
  /-- The run has ended for good. -/
  | terminal
  /-- As many refreshes succeeded as were asked for. -/
  | refreshLimit
  deriving DecidableEq, Repr

/-- The word for the end of a watch. -/
def WatchEnd.name : WatchEnd → String
  | .terminal => "Terminal"
  | .refreshLimit => "RefreshLimit"

/-- An **event**: something worth reporting. -/
inductive Event
  /-- New criteria were published after the named operation. -/
  | criteriaPublished (operation searchText : String) (offset : UInt64)
  /-- A list query was sent. -/
  | queryStarted (token : Nat) (searchText : String) (offset : UInt64)
  /-- The newest list query was answered. -/
  | queryCompleted (token rows : Nat) (totalCount : UInt64)
  /-- The newest list query failed. -/
  | queryFailed (token : Nat) (error : String)
  /-- An answer to a list query came after a newer one had been sent. -/
  | responseDiscarded (token latest : Nat)
  /-- There will be no further criteria; so many queries stay unanswered. -/
  | criteriaClosed (pending : Nat)
  /-- A row was selected that is not shown. -/
  | rowSelectMissed (rowId : String)
  /-- A row was selected. -/
  | rowSelected (rowId path : String)
  /-- The listing was left. -/
  | listDeactivated
  /-- The suggestion lists are being loaded from scratch. -/
  | suggestionsActivated (activation limit : Nat)
  /-- The suggestion lists stay as they are. -/
  | suggestionsDeactivated (activation : Nat) (abandoned : Bool)
  /-- A suggestion list was requested. -/
  | suggestionsFetchStarted (kind : SuggestionKind)
  /-- A suggestion list came too late. -/
  | suggestionsFetchSuperseded (kind : SuggestionKind)
  /-- A suggestion list came. -/
  | suggestionsFetchCompleted (kind : SuggestionKind) (received kept : Nat)
  /-- A suggestion list could not be had. -/
  | suggestionsFetchFailed (kind : SuggestionKind) (error : String)
  /-- The list screen was opened. -/
  | screenActivated (pageSize : UInt32) (limit : Nat)
  /-- The list screen was left. -/
  | screenDeactivated
  /-- A poller was mounted. -/
  | pollActivated (target : Target) (intervalMs : Nat)
  /-- A fetch was started. -/
  | pollFetchStarted (target : Target) (trigger : Trigger)
  /-- No fetch was started because one is under way. -/
  | pollTriggerSuppressed (target : Target) (trigger : Trigger)
  /-- A fetch brought the run. -/
  | pollFetchCompleted (target : Target) (status : RunStatus) (fetch : Nat)
  /-- A fetch failed. -/
  | pollFetchFailed (target : Target) (error : String) (fetch : Nat)
  /-- A refresh was asked for after the poller had stopped. -/
  | pollTriggerAfterStop (target : Target)
  /-- A poller was unmounted. -/
  | pollDeactivated (target : Target)
  /-- A configuration file was read. -/
  | configLayerLoaded (path : String)
  /-- A snapshot was loaded. -/
  | snapshotLoaded (path : String) (entities runs : Nat)
  /-- A snapshot answered a list query. -/
  | entitiesServed (rows : Nat) (count : UInt64)
  /-- The program started. -/
  | appStarted (version command : String)
  /-- The program is about to end. -/
  | appStopping (command : String) (succeeded : Bool)
  /-- Something failed that has no complaint of its own. -/
  | appFailed (error cause : String)
  /-- Something failed that the user cannot mend. -/
  | appErrorOccurred (code error cause : String)
  /-- Something failed that the user can mend. -/
  | appUserError (code error : String)
  /-- Entities are going to be listed. -/
  | listStarted (jsonOutput : Bool)
  /-- Entities could not be listed. -/
  | listFailed (error : String)
  /-- Entities were listed. -/
  | listCompleted (rows : Nat) (totalCount : UInt64) (isFiltered : Bool)
  /-- The snapshot to show is open. -/
  | backendOpened (path : String) (latencyMs : Nat)
  /-- A run is going to be watched. -/
  | watchStarted (target : Target) (refreshes intervalMs : Option Nat)
  /-- A refresh of a watched run failed. -/
  | watchRefreshFailed (error : String)
  /-- A watch ended well. -/
  | watchCompleted (target : Target) (reason : WatchEnd)
  /-- A watch ended in failure. -/
  | watchFailed (target : Target) (error : String)
  /-- A completion script was asked for. -/
  | completionsStarted (shell : String)
  /-- The program fails. -/
  | exitFailed (error : String)
  deriving DecidableEq, Repr

/-- A **log record**: the form of an event in the log. -/
structure LogRecord where
  /-- How much it matters. -/
  level : Level
  /-- What happened. -/
  name : String
  /-- To what. -/
  fields : List (String × Json.Tree)
  deriving DecidableEq, Repr

namespace Event

open Json (Tree)

/-- The form of an event in the log. -/
def record : Event → LogRecord
  | .criteriaPublished operation searchText offset =>
    ⟨.debug, "core.filters.snapshot_published", [("operation", .text operation),
      ("search_text", .text searchText), ("offset", .nat offset.toNat)]⟩
  | .queryStarted token searchText offset =>
    ⟨.info, "core.list.query_started", [("token", .nat token), ("search_text", .text searchText),
      ("offset", .nat offset.toNat)]⟩
  | .queryCompleted token rows totalCount =>
    ⟨.info, "core.list.query_completed", [("token", .nat token), ("rows", .nat rows),
      ("total_count", .nat totalCount.toNat)]⟩
  | .queryFailed token error =>
    ⟨.warn, "core.list.query_failed", [("token", .nat token), ("error", .text error)]⟩
  | .responseDiscarded token latest =>
    ⟨.debug, "core.list.response_discarded", [("token", .nat token), ("latest", .nat latest)]⟩
  | .criteriaClosed pending => ⟨.debug, "core.list.criteria_closed", [("pending", .nat pending)]⟩
  | .rowSelectMissed rowId => ⟨.debug, "core.list.row_select_missed", [("row_id", .text rowId)]⟩
  | .rowSelected rowId path =>
    ⟨.info, "core.list.row_selected", [("row_id", .text rowId), ("path", .text path)]⟩
  | .listDeactivated => ⟨.debug, "core.list.deactivated", []⟩
  | .suggestionsActivated activation limit =>
    ⟨.info, "core.facets.activate_started", [("activation", .nat activation), ("limit", .nat limit)]⟩
  | .suggestionsDeactivated activation abandoned =>
    ⟨.debug, "core.facets.deactivated",
      [("activation", .nat activation), ("abandoned", .bool abandoned)]⟩
  | .suggestionsFetchStarted kind =>
    ⟨.debug, "core.facets.fetch_started", [("kind", .text kind.name)]⟩
  | .suggestionsFetchSuperseded kind =>
    ⟨.debug, "core.facets.fetch_superseded", [("kind", .text kind.name)]⟩
  | .suggestionsFetchCompleted kind received kept =>
    ⟨.info, "core.facets.fetch_completed",
      [("kind", .text kind.name), ("received", .nat received), ("kept", .nat kept)]⟩
  | .suggestionsFetchFailed kind error =>
    ⟨.warn, "core.facets.fetch_failed", [("kind", .text kind.name), ("error", .text error)]⟩
  | .screenActivated pageSize limit =>
    ⟨.info, "core.controller.activated",
      [("page_size", .nat pageSize.toNat), ("facet_limit", .nat limit)]⟩
  | .screenDeactivated => ⟨.info, "core.controller.deactivated", []⟩
  | .pollActivated target intervalMs =>
    ⟨.info, "core.poll.activated",
      [("target", .text target.display), ("interval_ms", .nat intervalMs)]⟩
  | .pollFetchStarted target trigger =>
    ⟨.debug, "core.poll.fetch_started",
      [("target", .text target.display), ("trigger", .text trigger.name)]⟩
  | .pollTriggerSuppressed target trigger =>
    ⟨.debug, "core.poll.trigger_suppressed",
      [("target", .text target.display), ("trigger", .text trigger.name)]⟩
  | .pollFetchCompleted target status fetch =>
    ⟨.info, "core.poll.fetch_completed", [("target", .text target.display),
      ("status", .text status.name), ("fetch", .nat fetch)]⟩
  | .pollFetchFailed target error fetch =>
    ⟨.warn, "core.poll.fetch_failed", [("target", .text target.display), ("error", .text error),
      ("fetch", .nat fetch)]⟩
  | .pollTriggerAfterStop target =>
    ⟨.debug, "core.poll.trigger_after_stop", [("target", .text target.display)]⟩
  | .pollDeactivated target =>
    ⟨.info, "core.poll.deactivated", [("target", .text target.display)]⟩
  | .configLayerLoaded path => ⟨.debug, "core.config.layer_loaded", [("path", .text path)]⟩
  | .snapshotLoaded path entities runs =>
    ⟨.info, "core.fixture.load_completed",
      [("path", .text path), ("entities", .nat entities), ("task_runs", .nat runs)]⟩
  | .entitiesServed rows count =>
    ⟨.debug, "core.fixture.entities_served", [("rows", .nat rows), ("count", .nat count.toNat)]⟩
  | .appStarted version command =>
    ⟨.info, "core.app.startup_completed", [("version", .text version), ("command", .text command)]⟩
  | .appStopping command succeeded =>
    ⟨.info, "core.app.shutdown_started", [("command", .text command), ("succeeded", .bool succeeded)]⟩
  | .appFailed error cause =>
    ⟨.error, "core.app.error_occurred", [("error", .text error), ("cause", .text cause)]⟩
  | .appErrorOccurred code error cause =>
    ⟨.error, "core.app.error_occurred",
      [("code", .text code), ("error", .text error), ("cause", .text cause)]⟩
  | .appUserError code error =>
    ⟨.warn, "core.app.user_error", [("code", .text code), ("error", .text error)]⟩
  | .listStarted jsonOutput => ⟨.info, "cli.list_started", [("json_output", .bool jsonOutput)]⟩
  | .listFailed error => ⟨.error, "cli.list_failed", [("error", .text error)]⟩
  | .listCompleted rows totalCount isFiltered =>
    ⟨.info, "cli.list_completed", [("rows", .nat rows), ("total_count", .nat totalCount.toNat),
      ("is_filtered", .bool isFiltered)]⟩
  | .backendOpened path latencyMs =>
    ⟨.info, "cli.backend_opened", [("path", .text path), ("latency_ms", .nat latencyMs)]⟩
  | .watchStarted target refreshes intervalMs =>
    ⟨.info, "cli.watch_started", ("target", .text target.display)
      :: (refreshes.map fun n => ("refreshes", Tree.nat n)).toList
      ++ (intervalMs.map fun n => ("interval_ms", Tree.nat n)).toList⟩
  | .watchRefreshFailed error => ⟨.warn, "cli.watch_refresh_failed", [("error", .text error)]⟩
  | .watchCompleted target reason =>
    ⟨.info, "cli.watch_completed", [("target", .text target.display), ("end", .text reason.name)]⟩
  | .watchFailed target error =>
    ⟨.error, "cli.watch_failed", [("target", .text target.display), ("error", .text error)]⟩
  | .completionsStarted shell => ⟨.info, "cli.completions_started", [("shell", .text shell)]⟩
  | .exitFailed error => ⟨.error, "cli.exit_failed", [("error", .text error)]⟩

/-- The level of an event. -/
def level (e : Event) : Level := e.record.level

/-- The event that reports a complaint: a warning if the user can mend it. -/
def ofComplaint (c : Complaint) : Event :=
  if c.isUserError then .appUserError c.code c.message
  else .appErrorOccurred c.code c.message c.cause

/-- The event that reports a complaint without going into its kind. -/
def ofFailure (c : Complaint) : Event := .appFailed c.message c.cause

end Event

end Lookout
