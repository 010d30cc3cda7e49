import Lookout.Text.Blank
import Lookout.Text.Lowercase
import Lookout.Platform.Failure
import Lookout.Wire.Criteria
import Lookout.Wire.Platform

/-! # Snapshots
A **snapshot** is a document that holds everything the platform knew at some moment. It answers the
same questions as the platform: which rows match some criteria (`Snapshot.query`), what the filter
panel may suggest (`Snapshot.suggestions`) and how a run is doing (`Snapshot.run?`). -/

namespace Lookout

/-- A **snapshot** of the platform. Its entities can be counted in 64 bits, as all that fits into a
memory can. -/
structure Snapshot where
  /-- All entities, in the platform's order. -/
  entities : List Row
  /-- The suggested tags. -/
  tags : List Suggestion
  /-- The suggested labels. -/
  labels : List Suggestion
  /-- The suggested features. -/
  features : List Suggestion
  /-- All runs. -/
  runs : List Run
  /-- The number of entities has 64 bits. -/
  countable : entities.length < UInt64.size
  deriving DecidableEq, Repr

instance : Inhabited Snapshot := ⟨⟨[], [], [], [], [], by decide⟩⟩

/-! ## Which rows match -/

/-- The values a row has in a facet. -/
def Row.values (r : Row) : Facet → List String
  | .statuses => [r.status]
  | .tags => r.tags
  | .labels => r.labels
  | .features => r.features

/-- Whether a row's name contains the search text. Blanks around the search text do not count, nor
does the case of a letter. -/
def Criteria.matchesSearch (c : Criteria) (r : Row) : Bool :=
  Text.occursIn (Text.lowercase (Text.trim c.searchText.toList)) (Text.lowercase r.name.toList)

/-- Whether a row has one of the selected values of a facet, if any are selected. -/
def Criteria.matchesFacet (c : Criteria) (r : Row) (f : Facet) : Bool :=
  (c.selected f).isEmpty || (r.values f).any (· ∈ c.selected f)

/-- Whether a row is what was asked for. -/
def Criteria.matches (c : Criteria) (r : Row) : Bool :=
  c.matchesSearch r && Facet.all.all (c.matchesFacet r)

/-! ## Which rows are on a page -/

/-- The product of two 64-bit numbers, or the greatest such number if the product is beyond it. -/
def saturatingMul (a b : UInt64) : UInt64 :=
  if a.toNat * b.toNat < UInt64.size then a * b else .ofNat (UInt64.size - 1)

/-- A product stops at the greatest 64-bit number. -/
theorem toNat_saturatingMul (a b : UInt64) :
    (saturatingMul a b).toNat = min (a.toNat * b.toNat) (UInt64.size - 1) := by
  unfold saturatingMul
  split
  · next h =>
    rw [UInt64.toNat_mul, Nat.mod_eq_of_lt h]
    exact (Nat.min_eq_left (Nat.le_sub_one_of_lt h)).symm
  · next h =>
    have hmax : (UInt64.ofNat (UInt64.size - 1)).toNat = UInt64.size - 1 := by decide
    rw [hmax]
    exact (Nat.min_eq_right (Nat.le_trans (Nat.sub_le _ _) (Nat.not_lt.mp h))).symm

/-- A page far beyond the last one starts far beyond the last row, and not at the first one again. -/
example : saturatingMul 9223372036854775808 2 = 18446744073709551615 := by decide

/-- How many of the matching rows a page leaves out before its first one. -/
def Criteria.rowsSkipped (c : Criteria) : UInt64 := saturatingMul c.offset c.pageSize.val.toUInt64

namespace Snapshot

/-! ## Questions -/

/-- The rows that match, in the snapshot's order. -/
def matching (d : Snapshot) (c : Criteria) : List Row := d.entities.filter c.matches

/-- The page that was asked for, and how many rows match in all. -/
def query (d : Snapshot) (c : Criteria) : Page where
  data := ((d.matching c).drop c.rowsSkipped.toNat).take c.pageSize.toNat
  count := UInt64.ofNat (d.matching c).length

/-- The suggestions of a kind. -/
def suggestions (d : Snapshot) : SuggestionKind → List Suggestion
  | .tags => d.tags
  | .labels => d.labels
  | .features => d.features

/-- The first run with the two identifiers. -/
def run? (d : Snapshot) (t : Target) : Option Run := d.runs.find? fun r => r.target = t

/-- The first run with the two identifiers, or the failure to find one. -/
def lookUp (d : Snapshot) (t : Target) : Except CallFailure Run :=
  match d.run? t with
  | some r => .ok r
  | none => .error (.runNotFound t)

/-! ## Documents -/

open Json

/-- The names of the fields, in their order. -/
def fields : List String := ["entities", "tags", "labels", "features", "task_runs"]

/-- The snapshot with some entities, unless there are more than can be counted. -/
def ofParts? (entities : List Row) (tags labels features : List Suggestion) (runs : List Run) :
    Option Snapshot :=
  if h : entities.length < UInt64.size then some ⟨entities, tags, labels, features, runs, h⟩
  else none

/-- Read a snapshot; what is not given is empty. -/
def decode : Decoder Snapshot := .record fields fun depth given => do
  let entities ← Decoder.optional [] (.list Row.decode) "entities" depth given
  let tags ← Decoder.optional [] (.list Suggestion.decode) "tags" depth given
  let labels ← Decoder.optional [] (.list Suggestion.decode) "labels" depth given
  let features ← Decoder.optional [] (.list Suggestion.decode) "features" depth given
  let runs ← Decoder.optional [] (.list Run.decode) "task_runs" depth given
  ofParts? entities tags labels features runs

/-- Write a snapshot. -/
def toTree (d : Snapshot) : Tree := .record [
  ("entities", .list Row.toTree d.entities),
  ("tags", .list Suggestion.toTree d.tags),
  ("labels", .list Suggestion.toTree d.labels),
  ("features", .list Suggestion.toTree d.features),
  ("task_runs", .list Run.toTree d.runs)]

/-- Read the text of a snapshot that was found under a path. -/
def parse (path text : String) : Except SnapshotError Snapshot :=
  match decodeDocument? decode text with
  | some d => .ok d
  | none => .error (.parse path "the document is not a snapshot")

end Snapshot

end Lookout
