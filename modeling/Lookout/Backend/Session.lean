import Lookout.Backend
import Lookout.Platform.Entry

/-! # Sessions
A **session** is a backend in use. Calls are made and wait for as long as the backend lets every call
wait, any number of them at a time, and meanwhile somebody may change the file that the backend came
from. `Session.step` is one move: a change of the file, time that passes, a call that is made, or a
call that goes on when its wait is over and gets its answer, with the file as it is at that moment. -/

namespace Lookout.Backend

/-- What can be **asked** of a backend. -/
inductive Request
  /-- A page of rows. -/
  | entities (c : Criteria)
  /-- The suggestions of a kind. -/
  | suggestions (k : SuggestionKind)
  /-- A run. -/
  | run (t : Target)
  deriving DecidableEq, Repr

/-- What a backend **answers**. Only the request for a run can fail. -/
inductive Answer
  /-- A page of rows. -/
  | entities (p : Page)
  /-- The suggestions of a kind. -/
  | suggestions (ss : List Suggestion)
  /-- A run, or why there is none. -/
  | run (o : Except CallFailure Run)

/-- The answer to a request, when this is what the backend's file holds. -/
def answer (b : Backend) (file : Except ReadFault String) : Request → Answer
  | .entities c => .entities (b.entities c)
  | .suggestions k => .suggestions (b.suggestions k)
  | .run t => .run (b.run file t)

/-- The events that report an answer. -/
def Answer.reported : Answer → List Event
  | .entities p => [served p]
  | .suggestions _ | .run _ => []

/-- A **call**. -/
structure Call where
  /-- What is asked. -/
  request : Request
  /-- When it was asked. -/
  since : Nat
  /-- The answer, once there is one. -/
  answer : Option Answer

/-- A **session**. -/
structure Session where
  /-- The backend. -/
  backend : Backend
  /-- What is under the path of its file. -/
  entry : Entry
  /-- The milliseconds since the session began. -/
  now : Nat
  /-- The calls that were made, by the numbers that their callers gave them. -/
  calls : Nat → Option Call

namespace Session

/-- A session before any call. -/
def start (b : Backend) (entry : Entry) : Session := ⟨b, entry, 0, fun _ => none⟩

/-- A **move** of a session. -/
inductive Move
  /-- Somebody changes what is under the path of the file. -/
  | change (entry : Entry)
  /-- Time passes. -/
  | pass (ms : Nat)
  /-- A call is made; no two have the same number. -/
  | call (id : Nat) (r : Request)
  /-- The call with this number has waited long enough and gets its answer. -/
  | finish (id : Nat)

/-- Whether a call waits for its answer and has waited long enough. -/
def isDue (s : Session) (c : Call) : Bool :=
  c.answer.isNone && c.since + s.backend.latency ≤ s.now

/-- The answer to a call, with the file as it is now. -/
def answer (s : Session) (c : Call) : Answer := s.backend.answer s.entry.read c.request

/-- Note how a call stands. -/
def record (s : Session) (id : Nat) (c : Call) : Session :=
  { s with calls := fun i => if i = id then some c else s.calls i }

/-- Make a move, if it can be made. -/
def step (s : Session) : Move → Option (Session × List Event)
  | .change entry => some ({ s with entry := entry }, [])
  | .pass ms => some ({ s with now := s.now + ms }, [])
  | .call id r =>
    match s.calls id with
    | some _ => none
    | none => some (s.record id ⟨r, s.now, none⟩, [])
  | .finish id =>
    match s.calls id with
    | some c =>
      if s.isDue c then
        some (s.record id { c with answer := some (s.answer c) }, (s.answer c).reported)
      else none
    | none => none

/-- Make a move if it can be made, and stay otherwise. -/
def attempt (s : Session) (m : Move) : Session × List Event := (s.step m).getD (s, [])

/-- Make those of several moves that can be made. -/
def attemptAll (s : Session) : List Move → Session × List Event
  | [] => (s, [])
  | m :: ms =>
    let (s, es) := s.attempt m
    let (s, fs) := s.attemptAll ms
    (s, es ++ fs)

end Session

end Lookout.Backend
