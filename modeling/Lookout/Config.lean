import Lookout.Criteria
import Lookout.Platform.Failure
import Lookout.Json.Decoder

/-! # Configuration
A **configuration** sets some of five keys; what it does not set has a default. Configurations are
merged key by key, the later one winning, and `Config.validate` refuses values that nothing can be
done with. -/

namespace Lookout

/-- A **configuration**: the keys that are set. -/
structure Config where
  /-- The rows of one page. -/
  pageSize : Option UInt32
  /-- How many suggestions of a kind are kept. -/
  suggestionLimit : Option UInt64
  /-- The milliseconds between two refreshes of a run. -/
  pollInterval : Option UInt64
  /-- The file with the snapshot to show. -/
  snapshotPath : Option String
  /-- The milliseconds every call takes. -/
  callLatency : Option UInt64
  deriving DecidableEq, Repr

namespace Config

/-- The configuration that sets nothing. -/
def unset : Config := ⟨none, none, none, none, none⟩

/-! ## What is in force -/

/-- The page size: ten rows, unless a number of rows is set. -/
def effectivePageSize (c : Config) : PageSize :=
  (c.pageSize.bind PageSize.ofUInt32?).getD .standard

/-- The limit of the suggestion lists: eight, unless another one is set. -/
def effectiveLimit (c : Config) : Nat := (c.suggestionLimit.getD 8).toNat

/-- The milliseconds between two refreshes: 1500, unless others are set. -/
def effectiveInterval (c : Config) : Nat := (c.pollInterval.getD 1500).toNat

/-- The milliseconds every call takes: none, unless some are set. -/
def effectiveLatency (c : Config) : Nat := (c.callLatency.getD 0).toNat

/-- The criteria a list screen starts with. -/
def defaultCriteria (c : Config) : Criteria := .ofPageSize c.effectivePageSize

/-! ## Merging and checking -/

/-- Two configurations in one; what the later one sets counts. -/
def merge (base later : Config) : Config where
  pageSize := later.pageSize.or base.pageSize
  suggestionLimit := later.suggestionLimit.or base.suggestionLimit
  pollInterval := later.pollInterval.or base.pollInterval
  snapshotPath := later.snapshotPath.or base.snapshotPath
  callLatency := later.callLatency.or base.callLatency

@[simp] theorem merge_unset (c : Config) : merge c unset = c := rfl

@[simp] theorem unset_merge (c : Config) : merge unset c = c := by
  simp [merge, unset]

/-- What is wrong with the first key whose value cannot be used. -/
def problem? (c : Config) : Option String :=
  if c.pageSize = some 0 then some "list.page_size must be greater than 0"
  else if c.suggestionLimit = some 0 then some "facets.limit must be greater than 0"
  else if c.pollInterval = some 0 then some "poll.interval_ms must be greater than 0"
  else if c.snapshotPath = some "" then some "backend.fixture_path must not be empty"
  else none

/-- The configuration itself, unless a value in it cannot be used. -/
def validate (c : Config) : Except ConfigError Config :=
  match c.problem? with
  | some m => .error (.invalid m)
  | none => .ok c

/-! ## Configurations as JSON -/

open Json

/-- Read the section about the listing. -/
def decodeList : Decoder (Option UInt32) :=
  .record ["page_size"] (Decoder.optional none (.nullable .uint32) "page_size")

/-- Read the section about suggestions. -/
def decodeFacets : Decoder (Option UInt64) :=
  .record ["limit"] (Decoder.optional none (.nullable .uint64) "limit")

/-- Read the section about polling. -/
def decodePoll : Decoder (Option UInt64) :=
  .record ["interval_ms"] (Decoder.optional none (.nullable .uint64) "interval_ms")

/-- Read the section about the snapshot. -/
def decodeBackend : Decoder (Option String × Option UInt64) :=
  .record ["fixture_path", "latency_ms"] fun depth given => do
    let path ← Decoder.optional none (.nullable .text) "fixture_path" depth given
    let latency ← Decoder.optional none (.nullable .uint64) "latency_ms" depth given
    return (path, latency)

/-- Read a configuration. -/
def decode : Decoder Config := .record ["list", "facets", "poll", "backend"] fun depth given => do
  let pageSize ← Decoder.optional none decodeList "list" depth given
  let limit ← Decoder.optional none decodeFacets "facets" depth given
  let interval ← Decoder.optional none decodePoll "poll" depth given
  let (path, latency) ← Decoder.optional (none, none) decodeBackend "backend" depth given
  return ⟨pageSize, limit, interval, path, latency⟩

/-- The member for a key that is set. -/
def member {α : Type} (name : String) (f : α → Tree) : Option α → List (String × Tree)
  | none => []
  | some a => [(name, f a)]

/-- Write a configuration: all sections, but only the keys that are set. -/
def toTree (c : Config) : Tree := .record [
  ("list", .record (member "page_size" (fun n => .nat n.toNat) c.pageSize)),
  ("facets", .record (member "limit" (fun n => .nat n.toNat) c.suggestionLimit)),
  ("poll", .record (member "interval_ms" (fun n => .nat n.toNat) c.pollInterval)),
  ("backend", .record (member "fixture_path" .text c.snapshotPath
    ++ member "latency_ms" (fun n => .nat n.toNat) c.callLatency))]

end Config

end Lookout
