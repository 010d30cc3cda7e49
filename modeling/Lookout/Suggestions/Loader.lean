import Lookout.Suggestions.Panel

/-! # The suggestion loader
The **loader** fills the filter panel. Every activation sends one request per kind, and each answer
goes into the list of its own kind. Activations are numbered; an answer to a request of an activation
that is no longer the newest changes nothing. Requests are never taken back, so those of several
activations can be open at a time.

`Loader.step` is one move: an activation, a deactivation, the end of the loader, a request going out,
or an answer coming in. -/

namespace Lookout.Suggestions

/-- The **outcome** of a request for suggestions. -/
abbrev Outcome := Except CallFailure (List Suggestion)

/-- How far a request has come. -/
inductive Progress
  /-- It will be sent. -/
  | waiting
  /-- It was sent. -/
  | sent
  /-- Its outcome is known. -/
  | finished
  deriving DecidableEq, Repr

/-- A **request** for the suggestions of a kind. -/
structure Request where
  /-- The kind. -/
  kind : SuggestionKind
  /-- The activation it belongs to. -/
  activation : Nat
  /-- How far it has come. -/
  progress : Progress
  deriving DecidableEq, Repr

/-- A **loader**. -/
structure Loader where
  /-- How many suggestions of a kind are kept. -/
  limit : Nat
  /-- The number of the newest activation; deactivations count too. -/
  activation : Nat
  /-- What is published. -/
  panel : Panel
  /-- How many times something was published. -/
  publications : Nat
  /-- All requests, oldest first. -/
  requests : List Request
  /-- Whether the loader can still be activated. -/
  live : Bool
  deriving DecidableEq, Repr

namespace Loader

/-- A **move** of a loader. -/
inductive Move
  /-- Load all lists from scratch. -/
  | activate
  /-- Leave all lists as they are. -/
  | deactivate
  /-- The loader goes away. -/
  | drop
  /-- The request with this index goes out. -/
  | send (index : Nat)
  /-- The outcome of the request with this index comes in. -/
  | receive (index : Nat) (outcome : Outcome)

/-- A loader that was never activated. -/
def ofLimit (limit : Nat) : Loader := ⟨limit, 0, .blank, 0, [], true⟩

/-- Note how far a request has come. -/
def advance (l : Loader) (index : Nat) (p : Progress) : Loader :=
  { l with requests := l.requests.modify index fun r => { r with progress := p } }

/-- Publish a panel. -/
def publish (l : Loader) (p : Panel) : Loader :=
  { l with panel := p, publications := l.publications + 1 }

/-- The requests of an activation, about to go out. -/
def requestsOf (activation : Nat) : List Request :=
  SuggestionKind.all.map fun k => ⟨k, activation, .waiting⟩

/-- Start an activation: the panel awaits every list, and a request for each is about to go out. -/
def activate (l : Loader) : Loader :=
  { l with
    activation := l.activation + 1
    requests := l.requests ++ requestsOf (l.activation + 1) }.publish .awaiting

/-- Retire the newest activation. -/
def deactivate (l : Loader) : Loader :=
  let l' := { l with activation := l.activation + 1 }
  if l.panel.isSettled then l' else l'.publish l.panel.abandon

/-- Take the outcome of a request. -/
def receive (l : Loader) (index : Nat) (r : Request) (outcome : Outcome) : Loader :=
  let l' := l.advance index .finished
  if r.activation = l.activation then l'.publish (l.panel.receive r.kind l.limit outcome) else l'

/-- The event that reports the outcome of a request. -/
def received (l : Loader) (r : Request) (outcome : Outcome) : Event :=
  if r.activation = l.activation then
    match outcome with
    | .ok s => .suggestionsFetchCompleted r.kind s.length (min s.length l.limit)
    | .error f => .suggestionsFetchFailed r.kind f.message
  else .suggestionsFetchSuperseded r.kind

/-- Make a move, if it can be made. -/
def step (l : Loader) : Move → Option (Loader × List Event)
  | .activate =>
    if l.live then some (l.activate, [.suggestionsActivated (l.activation + 1) l.limit]) else none
  | .deactivate =>
    if l.live then
      some (l.deactivate, [.suggestionsDeactivated l.activation (!l.panel.isSettled)])
    else none
  | .drop =>
    if l.live then some ({ l with activation := l.activation + 1, live := false }, []) else none
  | .send index =>
    match l.requests[index]? with
    | some ⟨kind, _, .waiting⟩ => some (l.advance index .sent, [.suggestionsFetchStarted kind])
    | _ => none
  | .receive index outcome =>
    match l.requests[index]? with
    | some r =>
      if r.progress = .sent then some (l.receive index r outcome, [l.received r outcome]) else none
    | none => none

/-- Make a move if it can be made, and stay otherwise. -/
def attempt (l : Loader) (m : Move) : Loader × List Event := (l.step m).getD (l, [])

/-- Make those of several moves that can be made. -/
def attemptAll (l : Loader) : List Move → Loader × List Event
  | [] => (l, [])
  | m :: ms =>
    let (l, es) := l.attempt m
    let (l, fs) := l.attemptAll ms
    (l, es ++ fs)

/-- Let every request go out that has not. -/
def settle (l : Loader) : Loader × List Event :=
  l.attemptAll ((List.range l.requests.length).map .send)

/-- The kinds requested so far, in the order the requests went out. -/
def sent (l : Loader) : List SuggestionKind :=
  (l.requests.filter (·.progress ≠ .waiting)).map Request.kind

/-- Whether nothing can be published any more: the loader is gone, and so are its requests. -/
def isClosed (l : Loader) : Bool := !l.live && l.requests.all (·.progress = .finished)

end Loader

end Lookout.Suggestions
