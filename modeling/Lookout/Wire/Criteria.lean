import Lookout.Criteria
import Lookout.Json.Decoder

/-! # Criteria on the wire
How facets and criteria are written as JSON and read back. A set of values is an array in ascending
order when written; any order and any repetition is read. -/

namespace Lookout

open Json

namespace Facet

/-- Read a facet. -/
def decode : Decoder Facet := .constant (all.map fun f => (f.name, f))

/-- Write a facet. -/
def toTree (f : Facet) : Tree := .text f.name

/-- A facet is read back from what is written. -/
theorem decode_toTree (depth : Nat) (f : Facet) : decode depth f.toTree = some f := by
  cases f <;> rfl

end Facet

namespace ValueSet

/-- Read a set of values. -/
def decode : Decoder ValueSet := fun depth t => (Decoder.list .text depth t).map ofList

/-- Write a set of values. -/
def toTree (s : ValueSet) : Tree := .list .text s.toList

end ValueSet

namespace PageSize

/-- Read a page size. -/
def decode : Decoder PageSize := fun depth t => (Decoder.uint32 depth t).bind ofUInt32?

/-- Write a page size. -/
def toTree (p : PageSize) : Tree := .nat p.toNat

end PageSize

namespace Criteria

/-- The names of the fields, in their order. -/
def fields : List String :=
  ["SearchTxt", "Statuses", "Tags", "Labels", "Features", "pageSize", "offset"]

/-- Read criteria; every field must be given. -/
def decode : Decoder Criteria := .record fields fun depth given => do
  let searchText ← Decoder.required .text "SearchTxt" depth given
  let statuses ← Decoder.required ValueSet.decode "Statuses" depth given
  let tags ← Decoder.required ValueSet.decode "Tags" depth given
  let labels ← Decoder.required ValueSet.decode "Labels" depth given
  let features ← Decoder.required ValueSet.decode "Features" depth given
  let pageSize ← Decoder.required PageSize.decode "pageSize" depth given
  let offset ← Decoder.required .uint64 "offset" depth given
  return ⟨searchText, statuses, tags, labels, features, pageSize, offset⟩

/-- Write criteria. -/
def toTree (c : Criteria) : Tree := .record [
  ("SearchTxt", .text c.searchText),
  ("Statuses", c.statuses.toTree),
  ("Tags", c.tags.toTree),
  ("Labels", c.labels.toTree),
  ("Features", c.features.toTree),
  ("pageSize", c.pageSize.toTree),
  ("offset", .nat c.offset.toNat)]

end Criteria

end Lookout
