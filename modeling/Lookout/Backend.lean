import Lookout.Snapshot
import Lookout.Event

/-! # The snapshot backend
A **backend** answers calls from a snapshot. List queries and suggestions come from the snapshot as it
was loaded. Runs are looked up in the file as it is at the moment of the call, so that a run can be
watched while somebody else writes the file; a backend that came from no file looks them up in its
snapshot. -/

namespace Lookout

/-- Read a snapshot from what was found under a path. -/
def Snapshot.load (path : String) (file : Except ReadFault String) :
    Except SnapshotError Snapshot :=
  match file with
  | .ok text => Snapshot.parse path text
  | .error fault => .error (.read path fault)

/-- A **backend**. -/
structure Backend where
  /-- The snapshot. -/
  snapshot : Snapshot
  /-- The path of the file it came from. -/
  source : Option String
  /-- The milliseconds that every call takes. -/
  latency : Nat
  deriving DecidableEq, Repr

namespace Backend

/-- A backend for a snapshot that came from no file. -/
def ofSnapshot (d : Snapshot) : Backend := ⟨d, none, 0⟩

/-- A backend for the file under a path. -/
def load (path : String) (file : Except ReadFault String) :
    Except SnapshotError (Backend × Event) :=
  match Snapshot.load path file with
  | .ok d => .ok (⟨d, some path, 0⟩, .snapshotLoaded path d.entities.length d.runs.length)
  | .error e => .error e

/-- The answer to a list query. -/
def entities (b : Backend) (c : Criteria) : Page := b.snapshot.query c

/-- The event that reports the answer to a list query. -/
def served (p : Page) : Event := .entitiesServed p.data.length p.count

/-- The answer to a request for suggestions. -/
def suggestions (b : Backend) (k : SuggestionKind) : List Suggestion := b.snapshot.suggestions k

/-- The answer to a request for a run, when this is what the backend's file holds. -/
def run (b : Backend) (file : Except ReadFault String) (t : Target) : Except CallFailure Run :=
  match b.source with
  | none => b.snapshot.lookUp t
  | some path =>
    match Snapshot.load path file with
    | .ok d => d.lookUp t
    | .error e => .error e.toCallFailure

end Backend

end Lookout
