import Lookout.Store
import Lookout.Listing.Machine

/-! # The list engine
The **engine** follows a store: for every publication it notices it issues a query, and every outcome
goes through the list machine. Queries are never taken back, so several can be in flight.

A `Listing` is a store together with its engine. `Listing.step` is one move of it: a mutation of the
store, the engine waking up for a publication, an outcome arriving, or the end of the store or of the
engine. Moves may come in any order in which they are enabled; `Listing.settle` makes the moves the
engine can make on its own. -/

namespace Lookout.Listing

/-- The **engine**: the machine, what subscribers see of it, and the queries in flight. -/
structure Engine where
  /-- The state of the newest query. -/
  machine : Machine
  /-- The view published last. -/
  published : View
  /-- How many views were published after the first one. -/
  publications : Nat
  /-- The version of the store the engine looked at last. -/
  seen : Nat
  /-- The unanswered queries by token, oldest first. -/
  inFlight : List (Nat × Criteria)
  /-- Whether the engine still works. -/
  running : Bool
  deriving DecidableEq, Repr

namespace Engine

/-- Publish what the machine shows. -/
def publish (e : Engine) : Engine :=
  { e with published := e.machine.view, publications := e.publications + 1 }

/-- Issue a query. -/
def ask (e : Engine) (c : Criteria) : Engine :=
  { e with
    machine := e.machine.begin c
    inFlight := e.inFlight ++ [(e.machine.latest + 1, c)] }

/-- The event that reports the query issued next. -/
def asking (e : Engine) (c : Criteria) : Event :=
  .queryStarted (e.machine.latest + 1) c.searchText c.offset

/-- The engine of a store, with the first query issued and a first view that says so. -/
def spawn (s : Store) : Engine :=
  let e : Engine := ⟨.initial s.defaults, (Machine.initial s.defaults).view, 0, s.version, [], true⟩
  let e := e.ask s.current
  { e with published := e.machine.view }

/-- The event that reports the first query. -/
def spawned (s : Store) : Event := .queryStarted 1 s.current.searchText s.current.offset

/-- Notice the criteria in force. -/
def wake (e : Engine) (s : Store) : Engine := { e.ask s.current with seen := s.version }.publish

/-- Take the outcome of a query. A stale one changes nothing that is shown. -/
def respond (e : Engine) (token : Nat) (outcome : Outcome) : Engine :=
  let rest := e.inFlight.filter (·.1 ≠ token)
  match e.machine.classify token outcome with
  | .stale => { e with inFlight := rest }
  | .applied | .failed =>
    { e with machine := e.machine.complete token outcome, inFlight := rest }.publish

/-- The event that reports the outcome of a query. -/
def responded (e : Engine) (token : Nat) : Outcome → Event
  | .ok page =>
    if token = e.machine.latest then .queryCompleted token page.data.length page.count
    else .responseDiscarded token e.machine.latest
  | .error f =>
    if token = e.machine.latest then .queryFailed token f.message
    else .responseDiscarded token e.machine.latest

/-- Stop working; queries in flight stay unanswered. -/
def stop (e : Engine) : Engine := { e with running := false }

end Engine

end Lookout.Listing

namespace Lookout

open Listing

/-- A **listing**: a store and the engine that follows it. -/
structure Listing where
  /-- The store. -/
  store : Store
  /-- Whether the store can still publish. -/
  storeOpen : Bool
  /-- The engine. -/
  engine : Engine
  /-- Whether somebody still looks at the listing. -/
  held : Bool
  deriving DecidableEq, Repr

namespace Listing

/-- A **move** of a listing. -/
inductive Move
  /-- The user changes the criteria. -/
  | mutate (m : Mutation)
  /-- The engine notices that criteria were published. -/
  | wake
  /-- The outcome of a query reaches the engine. -/
  | respond (token : Nat) (outcome : Outcome)
  /-- The store goes away. -/
  | dropStore
  /-- The engine notices that there will be no further criteria. -/
  | close
  /-- The listing is left. -/
  | deactivate

/-- A store and a new engine for it. -/
def start (s : Store) : Listing := ⟨s, true, .spawn s, true⟩

/-- Whether the engine has not looked at the criteria in force. -/
def isBehind (l : Listing) : Bool := l.engine.seen ≠ l.store.version

/-- Whether a move can be made. -/
def enabled (l : Listing) : Move → Bool
  | .mutate _ => l.storeOpen
  | .wake => l.engine.running && l.isBehind
  | .respond token _ => l.engine.running && l.engine.inFlight.any (·.1 = token)
  | .dropStore => l.storeOpen
  | .close => l.engine.running && !l.isBehind && !l.storeOpen
  | .deactivate => l.held

/-- A listing after a move. -/
def after (l : Listing) : Move → Listing
  | .mutate m => { l with store := l.store.mutate m }
  | .wake => { l with engine := l.engine.wake l.store }
  | .respond token outcome => { l with engine := l.engine.respond token outcome }
  | .dropStore => { l with storeOpen := false }
  | .close => { l with engine := l.engine.stop }
  | .deactivate => { l with engine := l.engine.stop, held := false }

/-- What is reported about a move. -/
def report (l : Listing) : Move → List Event
  | .mutate m => [m.published (l.store.mutate m).current]
  | .wake => [l.engine.asking l.store.current]
  | .respond token outcome => [l.engine.responded token outcome]
  | .dropStore => []
  | .close => [.criteriaClosed l.engine.inFlight.length]
  | .deactivate => [.listDeactivated]

/-- Make a move, if it can be made. -/
def step (l : Listing) (m : Move) : Option (Listing × List Event) :=
  if l.enabled m then some (l.after m, l.report m) else none

/-- Make a move if it can be made, and stay otherwise. -/
def attempt (l : Listing) (m : Move) : Listing × List Event := (l.step m).getD (l, [])

/-- Make those of several moves that can be made. -/
def attemptAll (l : Listing) : List Move → Listing × List Event
  | [] => (l, [])
  | m :: ms =>
    let (l, es) := l.attempt m
    let (l, fs) := l.attemptAll ms
    (l, es ++ fs)

/-- Let the engine notice what it has not noticed. -/
def settle (l : Listing) : Listing × List Event := l.attemptAll [.wake, .close]

/-- The view that somebody who waits for a result gets to see, if the wait is over: a result for the
given criteria, or for any if none are given. A stopped engine keeps nobody waiting. -/
def settled? (l : Listing) (criteria : Option Criteria) : Option View :=
  let v := l.engine.published
  let done := match criteria with
    | some c => v.isSettledFor c
    | none => !v.loading
  if done || !l.engine.running then some v else none

end Listing

end Lookout
