import Lookout.Backend
import Lookout.Config
import Lookout.Polling.Poller
import Lookout.Cli.Arguments
import Lookout.Cli.Output

/-! # The watch command
`watch` follows a poller and reports every fetch that has come to an end. It ends when the run has
ended for good, when as many refreshes succeeded as were asked for, or when the very first fetch
failed; a later failure keeps what was shown. Of a run's log only the lines are shown that were not
there the last time. -/

namespace Lookout.Cli

open Polling (State)

/-- How far a watch has come. -/
structure Progress where
  /-- How many fetches were reported. -/
  seen : Nat
  /-- How many refreshes succeeded. -/
  successes : Nat
  /-- How many lines the log of the run had the last time. -/
  printedLogs : Nat
  deriving DecidableEq, Repr

/-- How a watch ended: well, or with a message. -/
abbrev Verdict := Except String WatchEnd

/-- The lines of the log that were not there the last time. -/
def newLogs (printed : Nat) (logs : List String) : List String := logs.drop (min printed logs.length)

/-- A run in lines. -/
def runLines (printed : Nat) (r : Run) : List String :=
  let name := if r.name.isEmpty then "task run" else r.name
  (name ++ " [" ++ r.taskId ++ "/" ++ r.runId ++ "]: " ++ r.status.name)
    :: (r.startTime.map fun t => "  started:  " ++ t.display).toList
    ++ (r.endTime.map fun t => "  finished: " ++ t.display).toList
    ++ (newLogs printed r.logs).map ("  | " ++ ·)
    ++ (r.error.map ("  error: " ++ ·)).toList

namespace Progress

/-- Before the first fetch. -/
def initial : Progress := ⟨0, 0, 0⟩

/-- Why a watch ends with a refresh that succeeded, if it does. -/
def endOf (limit : Option UInt64) (successes : Nat) (r : Run) : Option WatchEnd :=
  if r.isTerminal then some .terminal
  else if limit.any (·.toNat ≤ successes) then some .refreshLimit
  else none

/-- Report a fetch that has come to an end. -/
def report (limit : Option UInt64) (p : Progress) (s : State) :
    Progress × List Output × Option Verdict :=
  match s.lastError, s.lastGood with
  | some message, none => (p, [], some (.error message))
  | some message, some _ =>
    (p, [.event (.watchRefreshFailed message),
      .notice ("Refresh failed, showing last known state: " ++ message)], none)
  | none, none => (p, [], none)
  | none, some r =>
    ({ p with successes := p.successes + 1, printedLogs := r.logs.length },
      (runLines p.printedLogs r).map fun l => .answer (l ++ "\n"),
      (endOf limit (p.successes + 1) r).map .ok)

/-- Look at a state that was published; it is reported if a fetch has come to an end since. -/
def observe (limit : Option UInt64) (p : Progress) (s : State) :
    Progress × List Output × Option Verdict :=
  if s.completed = p.seen then (p, [], none) else { p with seen := s.completed }.report limit s

/-- Look at states one after the other, until the watch ends. -/
def follow (limit : Option UInt64) (p : Progress) : List State → List Output × Option Verdict
  | [] => ([], none)
  | s :: ss =>
    match p.observe limit s with
    | (_, out, some v) => (out, some v)
    | (p, out, none) =>
      let (rest, v) := p.follow limit ss
      (out ++ rest, v)

end Progress

/-- A **watch** that goes on. -/
structure Watch where
  /-- The run that is watched. -/
  target : Target
  /-- After how many good refreshes to stop. -/
  limit : Option UInt64
  /-- Where the run is looked up. -/
  backend : Backend
  /-- The poller. -/
  poller : Polling.Poller
  /-- How far the watch has come. -/
  progress : Progress

namespace Watch

/-- Begin to watch. -/
def start (c : Config) (b : Backend) (o : WatchOptions) : Watch × List Output :=
  let interval := o.interval.or c.pollInterval
  let c := { c with pollInterval := interval }
  let poller := Polling.Poller.mount o.target c.effectiveInterval
  (⟨o.target, o.refreshes, b, poller, .initial⟩,
    Output.events [.watchStarted o.target (o.refreshes.map UInt64.toNat) (interval.map UInt64.toNat),
      poller.mounted])

/-- Take what the file of the backend holds at the end of the next fetch. -/
def refresh (w : Watch) (file : Except ReadFault String) : Watch × List Output × Option Verdict :=
  let o := w.backend.run file w.target
  let poller := w.poller.trigger
  let e := poller.finished o
  let poller := poller.finish o
  let (p, out, v) := w.progress.observe w.limit poller.published
  ({ w with poller := poller, progress := p }, .event e :: out, v)

/-- What the command gives out at the end of a watch. -/
def conclude (w : Watch) (v : Verdict) : Result :=
  match v with
  | .ok reason =>
    .success (Output.events [.pollDeactivated w.target, .watchCompleted w.target reason])
  | .error message =>
    .failed [.event (.pollDeactivated w.target),
      .notice ("Failed to watch task run " ++ w.target.display ++ ": " ++ message),
      .event (.watchFailed w.target message), .event (.appFailed message "")] message

/-- Watch while the file holds one thing after the other, for at most so many fetches; `none` if the
watch goes on after them. -/
def run (w : Watch) (reads : Nat → Except ReadFault String) : Nat → Nat → Option Result
  | 0, _ => none
  | fuel + 1, n =>
    match w.refresh (reads n) with
    | (w, out, some v) => some ((w.conclude v).after out)
    | (w, out, none) => (w.run reads fuel (n + 1)).map (·.after out)

end Watch

end Lookout.Cli
