import Lookout.Listing.Engine
import Lookout.Suggestions.Loader

/-! # The list screen
The **screen** brings a listing and the loader of the filter panel together. The two run side by side
and never look at each other. `Screen.step` is one move of either; `Screen.settled?` says what
somebody sees who waits until both have come to rest. -/

namespace Lookout

open Listing Suggestions

/-- A **screen**: the listing and the filter panel. -/
structure Screen where
  /-- The store, and the engine that follows it. -/
  listing : Listing
  /-- The loader of the filter panel. -/
  loader : Loader
  deriving DecidableEq, Repr

namespace Screen

/-- A **move** of a screen. -/
inductive Move
  /-- The user changes the criteria. -/
  | mutate (m : Mutation)
  /-- The engine notices that criteria were published. -/
  | wake
  /-- The outcome of a list query comes in. -/
  | respond (token : Nat) (outcome : Listing.Outcome)
  /-- A request for suggestions goes out. -/
  | send (index : Nat)
  /-- The outcome of a request for suggestions comes in. -/
  | receive (index : Nat) (outcome : Suggestions.Outcome)
  /-- The screen is left. -/
  | deactivate

/-- The screen that opens with the given defaults and limit, and what is reported about it. -/
def activate (defaults : Criteria) (limit : Nat) : Screen × List Event :=
  let store := Store.ofDefaults defaults
  let (loader, es) := (Loader.ofLimit limit).attempt .activate
  (⟨.start store, loader⟩,
    Engine.spawned store :: es ++ [.screenActivated defaults.pageSize.val limit])

/-- Whether the screen is open. -/
def isOpen (s : Screen) : Bool := s.listing.held

/-- A move of the listing. -/
def list (s : Screen) (m : Listing.Move) : Option (Screen × List Event) :=
  (s.listing.step m).map fun (l, es) => ({ s with listing := l }, es)

/-- A move of the loader. -/
def load (s : Screen) (m : Loader.Move) : Option (Screen × List Event) :=
  (s.loader.step m).map fun (l, es) => ({ s with loader := l }, es)

/-- Leave the screen: the panel awaits nothing any more, and then the engine stops. -/
def close (s : Screen) : Screen × List Event :=
  let (loader, es) := s.loader.attempt .deactivate
  let (loader, fs) := loader.attempt .drop
  let (listing, gs) := s.listing.attemptAll [.dropStore, .deactivate]
  (⟨listing, loader⟩, es ++ fs ++ .screenDeactivated :: gs)

/-- Make a move, if it can be made. -/
def step (s : Screen) : Move → Option (Screen × List Event)
  | .mutate m => s.list (.mutate m)
  | .wake => s.list .wake
  | .respond token outcome => s.list (.respond token outcome)
  | .send index => s.load (.send index)
  | .receive index outcome => s.load (.receive index outcome)
  | .deactivate => if s.isOpen then some s.close else none

/-- Make a move if it can be made, and stay otherwise. -/
def attempt (s : Screen) (m : Move) : Screen × List Event := (s.step m).getD (s, [])

/-- Make those of several moves that can be made. -/
def attemptAll (s : Screen) : List Move → Screen × List Event
  | [] => (s, [])
  | m :: ms =>
    let (s, es) := s.attempt m
    let (s, fs) := s.attemptAll ms
    (s, es ++ fs)

/-- Let the engine notice what it has not noticed, and let every request go out. -/
def settle (s : Screen) : Screen × List Event :=
  let (listing, es) := s.listing.settle
  let (loader, fs) := s.loader.settle
  (⟨listing, loader⟩, es ++ fs)

/-- The view that somebody sees who waits for a result for the criteria in force, if there is one. -/
def settledView? (s : Screen) : Option View := s.listing.settled? (some s.listing.store.current)

/-- The panel that somebody sees who waits for all lists, if they are there. -/
def settledPanel? (s : Screen) : Option Panel :=
  if s.loader.panel.isSettled then some s.loader.panel else none

/-- What somebody sees who waits until listing and panel have come to rest, if they have. -/
def settled? (s : Screen) : Option (View × Panel) :=
  s.settledView?.bind fun v => s.settledPanel?.map fun p => (v, p)

end Screen

end Lookout
