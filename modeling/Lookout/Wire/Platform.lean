import Lookout.Platform
import Lookout.Json.Decoder
import Lookout.Time.Reader

/-! # Platform records on the wire
How rows, pages, suggestions and runs are written as JSON and read back. Where the platform leaves
something out or sends `null` for an empty collection, the reader fills in what is meant; the writer
always writes every field. -/

namespace Lookout

open Json

namespace Timestamp

/-- Read a timestamp. -/
def decode : Decoder Timestamp := fun depth t => (Decoder.text depth t).bind ofText?

/-- Write a timestamp. -/
def toTree (t : Timestamp) : Tree := .text t.toText

end Timestamp

/-- Read properties: any JSON under any key, the last of several values for a key standing for all. -/
def decodeProperties : Decoder (List (String × Value))
  | depth + 1, .object members => (Value.decodeMembers depth members).map sortMembers
  | _, _ => none

namespace Row

/-- The names of the fields, in their order. -/
def fields : List String :=
  ["id", "name", "type", "description", "status", "tags", "labels", "features", "properties"]

/-- Read a row; only the name must be given. -/
def decode : Decoder Row := .record fields fun depth given => do
  let id ← Decoder.optional 0 .uint64 "id" depth given
  let name ← Decoder.required .text "name" depth given
  let type ← Decoder.optional "" .text "type" depth given
  let description ← Decoder.optional "" .text "description" depth given
  let status ← Decoder.optional "" .text "status" depth given
  let tags ← Decoder.optional [] (.nullOr [] (.list .text)) "tags" depth given
  let labels ← Decoder.optional [] (.nullOr [] (.list .text)) "labels" depth given
  let features ← Decoder.optional [] (.nullOr [] (.list .text)) "features" depth given
  let properties ← Decoder.optional [] (.nullOr [] decodeProperties) "properties" depth given
  return ⟨id, name, type, description, status, tags, labels, features, properties⟩

/-- Write a row. -/
def toTree (r : Row) : Tree := .record [
  ("id", .nat r.id.toNat),
  ("name", .text r.name),
  ("type", .text r.type),
  ("description", .text r.description),
  ("status", .text r.status),
  ("tags", .list .text r.tags),
  ("labels", .list .text r.labels),
  ("features", .list .text r.features),
  ("properties", (Value.object r.properties).toTree)]

end Row

namespace Page

/-- The names of the fields, in their order. -/
def fields : List String := ["data", "count"]

/-- Read a page. -/
def decode : Decoder Page := .record fields fun depth given => do
  let data ← Decoder.optional [] (.nullOr [] (.list Row.decode)) "data" depth given
  let count ← Decoder.optional 0 .uint64 "count" depth given
  return ⟨data, count⟩

/-- Write a page. -/
def toTree (p : Page) : Tree := .record [
  ("data", .list Row.toTree p.data),
  ("count", .nat p.count.toNat)]

end Page

namespace Suggestion

/-- The names of the fields, in their order. -/
def fields : List String := ["name"]

/-- Read a suggestion. -/
def decode : Decoder Suggestion := .record fields fun depth given => do
  return ⟨← Decoder.required .text "name" depth given⟩

/-- Write a suggestion. -/
def toTree (s : Suggestion) : Tree := .record [("name", .text s.name)]

end Suggestion

namespace SuggestionKind

/-- Read a kind. -/
def decode : Decoder SuggestionKind := .constant (all.map fun k => (k.name, k))

/-- Write a kind. -/
def toTree (k : SuggestionKind) : Tree := .text k.name

/-- A kind is read back from what is written. -/
theorem decode_toTree (depth : Nat) (k : SuggestionKind) : decode depth k.toTree = some k := by
  cases k <;> rfl

end SuggestionKind

namespace RunStatus

/-- Read a status. -/
def decode : Decoder RunStatus := .constant (all.map fun s => (s.name, s))

/-- Write a status. -/
def toTree (s : RunStatus) : Tree := .text s.name

/-- A status is read back from what is written. -/
theorem decode_toTree (depth : Nat) (s : RunStatus) : decode depth s.toTree = some s := by
  cases s <;> rfl

end RunStatus

namespace Run

/-- The names of the fields, in their order. -/
def fields : List String :=
  ["task_id", "run_id", "name", "status", "start_time", "end_time", "logs", "error"]

/-- Read a run; the two identifiers and the status must be given. -/
def decode : Decoder Run := .record fields fun depth given => do
  let taskId ← Decoder.required .text "task_id" depth given
  let runId ← Decoder.required .text "run_id" depth given
  let name ← Decoder.optional "" .text "name" depth given
  let status ← Decoder.required RunStatus.decode "status" depth given
  let startTime ← Decoder.optional none (.nullable Timestamp.decode) "start_time" depth given
  let endTime ← Decoder.optional none (.nullable Timestamp.decode) "end_time" depth given
  let logs ← Decoder.optional [] (.nullOr [] (.list .text)) "logs" depth given
  let error ← Decoder.optional none (.nullable .text) "error" depth given
  return ⟨taskId, runId, name, status, startTime, endTime, logs, error⟩

/-- Write a run. -/
def toTree (r : Run) : Tree := .record [
  ("task_id", .text r.taskId),
  ("run_id", .text r.runId),
  ("name", .text r.name),
  ("status", r.status.toTree),
  ("start_time", .optional Timestamp.toTree r.startTime),
  ("end_time", .optional Timestamp.toTree r.endTime),
  ("logs", .list .text r.logs),
  ("error", .optional .text r.error)]

end Run

end Lookout
