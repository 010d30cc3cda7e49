import Lookout.Event

/-! # Poll states
The state of a poller: whether a fetch is under way, the last good record of the run, what went wrong
with the newest fetch, and how many fetches have come to an end. A state has two moves:
`State.begin`, from idle to fetching, and `State.finish`, back again. Each does nothing in the other
phase. -/

namespace Lookout.Polling

/-- The **outcome** of a fetch. -/
abbrev Outcome := Except CallFailure Run

/-- Whether a fetch is under way. -/
inductive Phase
  | idle
  | fetching
  deriving DecidableEq, Repr

/-- The word for a phase. -/
def Phase.name : Phase → String
  | .idle => "idle"
  | .fetching => "fetching"

/-- A **poll state**. -/
structure State where
  /-- Whether a fetch is under way. -/
  phase : Phase
  /-- The run as it was fetched last. -/
  lastGood : Option Run
  /-- What went wrong with the newest fetch that came to an end. -/
  lastError : Option String
  /-- How many fetches came to an end, well or not. -/
  completed : Nat
  deriving DecidableEq, Repr

namespace State

/-- Before the first fetch. -/
def initial : State := ⟨.idle, none, none, 0⟩

/-- Start a fetch unless one is under way. -/
def begin (s : State) : State :=
  match s.phase with
  | .idle => { s with phase := .fetching }
  | .fetching => s

/-- End the fetch that is under way, if there is one. A failure keeps the last good record. -/
def finish (s : State) (o : Outcome) : State :=
  match s.phase with
  | .idle => s
  | .fetching =>
    match o with
    | .ok run => ⟨.idle, some run, none, s.completed + 1⟩
    | .error f => ⟨.idle, s.lastGood, some f.message, s.completed + 1⟩

/-- Whether a fetch could be started. -/
def canBegin (s : State) : Bool := s.phase = .idle

/-- Whether a fetch could be ended. -/
def canFinish (s : State) : Bool := s.phase = .fetching

theorem begin_of_fetching {s : State} (h : s.phase = .fetching) : s.begin = s := by
  simp [begin, h]

theorem finish_of_idle {s : State} (h : s.phase = .idle) (o : Outcome) : s.finish o = s := by
  simp [finish, h]

end State

end Lookout.Polling
