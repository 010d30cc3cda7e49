import Lookout.Config
import Lookout.Toml.Reader

/-! # Configuration files
How a configuration is read from TOML. Each section is a table, or an array of its keys' values in
their order; a date counts as an empty section. Keys and sections nobody knows are skipped. -/

namespace Lookout.Config

open Toml (Value Table)

/-- What a value gives for the keys of a section. -/
def sectionMembers? (keys : List String) : Value → Option (List (String × Value))
  | .table members => some members
  | .array items => some (keys.zip items)
  | .dateTime _ => some []
  | _ => none

/-- A natural number below a bound. -/
def natural? (bound : Nat) : Value → Option Nat
  | .integer i => if 0 ≤ i ∧ i < bound then some i.toNat else none
  | _ => none

/-- An unsigned 32-bit number. -/
def uint32? (v : Value) : Option UInt32 := (natural? UInt32.size v).map UInt32.ofNat

/-- An unsigned 64-bit number. -/
def uint64? (v : Value) : Option UInt64 := (natural? UInt64.size v).map UInt64.ofNat

/-- A text. -/
def text? : Value → Option String
  | .text s => some s
  | _ => none

/-- What a document gives for the keys of a section. -/
def section? (t : Table) (name : String) (keys : List String) : Option (List (String × Value)) :=
  match t.lookup name with
  | none => some []
  | some v => sectionMembers? keys v

/-- The value of a key, if the key is set. -/
def key? {α : Type} (read : Value → Option α) (members : List (String × Value)) (name : String) :
    Option (Option α) :=
  match members.lookup name with
  | none => some none
  | some v => (read v).map some

/-- The configuration in a document. -/
def ofTable? (t : Table) : Option Config := do
  let list ← section? t "list" ["page_size"]
  let facets ← section? t "facets" ["limit"]
  let poll ← section? t "poll" ["interval_ms"]
  let backend ← section? t "backend" ["fixture_path", "latency_ms"]
  let pageSize ← key? uint32? list "page_size"
  let limit ← key? uint64? facets "limit"
  let interval ← key? uint64? poll "interval_ms"
  let path ← key? text? backend "fixture_path"
  let latency ← key? uint64? backend "latency_ms"
  return ⟨pageSize, limit, interval, path, latency⟩

/-- Read a configuration from the text of a file. -/
def ofText? (s : String) : Option Config := (Toml.parse? s).bind ofTable?

end Lookout.Config
