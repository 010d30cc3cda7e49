import Lookout.Config
import Lookout.Snapshot
import Lookout.Proofs.Criteria
import Lookout.Proofs.Json.Decoders
import Lookout.Proofs.Json.Values
import Lookout.Proofs.Time

/-! # What is written is read back
Criteria, rows, pages, suggestions, runs, snapshots and configurations are written as JSON, each by
its own list of members, and read by a decoder that has its own list of fields. This file shows that
the two lists go together: **whatever is written is read back as it was**, in either layout, and so is
whatever was read before. A row has to be one that a reader could have made, and the doubles in its
properties have to be read back from their own numerals, which not all doubles are.

* `Row.Fits`, `Row.doubles`: what properties have to be like.
* `Criteria.decode_toTree` and its like: the trees.
* `RoundTrip`: all values of a type, and all documents that are read as one.
* `round_trips`: the whole statement. -/

namespace Lookout

open Json

/-! ## Sets and page sizes -/

namespace ValueSet

/-- A set is made of its members. -/
theorem ofList_toList (s : ValueSet) : ofList s.toList = s :=
  ValueSet.ext fun _ => mem_ofList

/-- A set is read back from its tree. -/
theorem decode_toTree (depth : Nat) (s : ValueSet) : decode (depth + 1) s.toTree = some s := by
  rw [decode, toTree, Decoder.list_text, Option.map_some, ofList_toList]

end ValueSet

namespace PageSize

/-- A page size is read back from its tree. -/
theorem decode_toTree (depth : Nat) (p : PageSize) : decode depth p.toTree = some p := by
  rw [decode, toTree, toNat, Decoder.uint32_nat]
  exact dif_neg p.ne_zero

end PageSize

/-! ## Criteria -/

namespace Criteria

/-- Criteria are read back from their tree. -/
theorem decode_toTree (depth : Nat) (c : Criteria) : decode (depth + 2) c.toTree = some c := by
  -- The members have the names of the fields. What is left is to find each of them and to read it.
  refine (Decoder.record_fields (by rfl) (by decide) (depth + 1)).trans ?_
  simp only [Decoder.required, List.lookup_cons, String.reduceBEq, beq_self_eq_true,
    Option.bind_some, ValueSet.decode_toTree, PageSize.decode_toTree, Decoder.uint64_nat]
  rfl

theorem proper_toTree (c : Criteria) : c.toTree.Proper := by
  simp [toTree, ValueSet.toTree, PageSize.toTree]

end Criteria

/-! ## Rows and pages -/

namespace Row

/-- The properties of a row, as one value. -/
def allProperties (r : Row) : Value := .object r.properties

/-- What a reader can make that may nest so many containers in a row. -/
def Fits (depth : Nat) (r : Row) : Prop := r.allProperties.Fits depth

/-- The doubles in the properties of a row. -/
def doubles (r : Row) : List Binary64 := r.allProperties.doubles

variable {depth : Nat} {r : Row}

/-- Properties are read back from their tree. -/
theorem decodeProperties_toTree (h : r.Fits depth) (hkeeps : ∀ x ∈ r.doubles, Numeral.Keeps x) :
    decodeProperties depth r.allProperties.toTree = some r.properties := by
  cases depth with
  | zero => exact h.elim
  | succ depth =>
      rw [allProperties, Value.toTree, decodeProperties,
        Value.decodeMembers_membersToTrees h.2 hkeeps, Option.map_some,
        sortMembers_of_ascending h.1]

/-- A row is read back from its tree. -/
theorem decode_toTree (h : r.Fits (depth + 1)) (hkeeps : ∀ x ∈ r.doubles, Numeral.Keeps x) :
    decode (depth + 2) r.toTree = some r := by
  have hproperties : Decoder.nullOr [] decodeProperties (depth + 1)
      (Value.object r.properties).toTree = some r.properties := decodeProperties_toTree h hkeeps
  refine (Decoder.record_fields (by rfl) (by decide) (depth + 1)).trans ?_
  simp only [Decoder.required, Decoder.optional, List.lookup_cons, String.reduceBEq,
    beq_self_eq_true, Option.bind_some, Decoder.uint64_nat, Decoder.nullOr_list, Decoder.list_text,
    hproperties]
  rfl

theorem proper_toTree (r : Row) : r.toTree.Proper := by
  have hproperties := Value.proper_toTree r.allProperties
  rw [allProperties] at hproperties
  simp [toTree, hproperties]

/-- **The properties that were read are some that a reader can make.** -/
theorem fits_of_decode {t : Tree} (h : decode (depth + 2) t = some r) : r.Fits (depth + 1) := by
  have hempty : (Value.object []).Fits (depth + 1) := ⟨.nil, trivial⟩
  obtain ⟨given, -, hbuild⟩ := Option.bind_eq_some_iff.mp h
  simp only [Option.bind_eq_bind, Option.bind_eq_some_iff, Option.pure_def,
    Option.some.injEq] at hbuild
  obtain ⟨_, -, _, -, _, -, _, -, _, -, _, -, _, -, _, -, properties, hproperties, rfl⟩ := hbuild
  -- Properties that are absent or `null` are none; all others were read as members.
  rcases Decoder.eq_or_of_optional hproperties with rfl | ⟨t, ht⟩
  · exact hempty
  rcases Decoder.eq_or_of_nullOr ht with rfl | ht
  · exact hempty
  cases t with
  | object members =>
      obtain ⟨ms, hms, rfl⟩ := Option.map_eq_some_iff.mp ht
      exact ⟨(sortMembers_spec ms).1,
        Value.fitMembers_sortMembers (Value.fitMembers_of_decodeMembers hms)⟩
  | _ => cases ht

/-- Rows are read back from their trees. -/
theorem decode_list_toTree {rs : List Row} (h : ∀ r ∈ rs, r.Fits (depth + 1))
    (hkeeps : ∀ x ∈ rs.flatMap doubles, Numeral.Keeps x) :
    Decoder.list decode (depth + 3) (.list toTree rs) = some rs :=
  Decoder.list_list fun r hr =>
    decode_toTree (h r hr) fun x hx => hkeeps x (List.mem_flatMap.mpr ⟨r, hr, hx⟩)

/-- Each of the rows that were read is one that a reader can make. -/
theorem fits_of_decode_list {t : Tree} {rs : List Row}
    (h : Decoder.list decode (depth + 3) t = some rs) : ∀ r ∈ rs, r.Fits (depth + 1) := by
  intro r hr
  obtain ⟨t, ht⟩ := Decoder.exists_of_list h r hr
  exact fits_of_decode ht

end Row

namespace Page

variable {depth : Nat} {p : Page}

/-- What a reader can make that may nest so many containers in a row. -/
def Fits (depth : Nat) (p : Page) : Prop := ∀ r ∈ p.data, r.Fits depth

/-- The doubles in the properties of all rows. -/
def doubles (p : Page) : List Binary64 := p.data.flatMap Row.doubles

/-- A page is read back from its tree. -/
theorem decode_toTree (h : p.Fits (depth + 1)) (hkeeps : ∀ x ∈ p.doubles, Numeral.Keeps x) :
    decode (depth + 4) p.toTree = some p := by
  refine (Decoder.record_fields (by rfl) (by decide) (depth + 3)).trans ?_
  simp only [Decoder.optional, List.lookup_cons, String.reduceBEq, beq_self_eq_true,
    Decoder.uint64_nat, Decoder.nullOr_list, Row.decode_list_toTree h hkeeps]
  rfl

theorem proper_toTree (p : Page) : p.toTree.Proper := by
  simp [toTree, Row.proper_toTree]

/-- The rows of a page that was read are some that a reader can make. -/
theorem fits_of_decode {t : Tree} (h : decode (depth + 4) t = some p) : p.Fits (depth + 1) := by
  obtain ⟨given, -, hbuild⟩ := Option.bind_eq_some_iff.mp h
  simp only [Option.bind_eq_bind, Option.bind_eq_some_iff, Option.pure_def,
    Option.some.injEq] at hbuild
  obtain ⟨data, hdata, _, -, rfl⟩ := hbuild
  rcases Decoder.eq_or_of_optional hdata with rfl | ⟨t, ht⟩
  · exact nofun
  rcases Decoder.eq_or_of_nullOr ht with rfl | ht
  · exact nofun
  · exact Row.fits_of_decode_list ht

end Page

/-! ## Suggestions and runs -/

namespace Suggestion

/-- A suggestion is read back from its tree. -/
theorem decode_toTree (depth : Nat) (s : Suggestion) : decode (depth + 1) s.toTree = some s :=
  Decoder.record_fields (by rfl) (by decide) depth

theorem proper_toTree (s : Suggestion) : s.toTree.Proper := by
  simp [toTree]

end Suggestion

namespace Timestamp

/-- A timestamp is read back from its tree. -/
theorem decode_toTree (depth : Nat) (t : Timestamp) : decode depth t.toTree = some t := by
  have htext : Decoder.text depth (.text t.toText) = some t.toText := rfl
  rw [decode, toTree, htext, Option.bind_some, ofText?_toText]

end Timestamp

namespace Run

/-- A run is read back from its tree. -/
theorem decode_toTree (depth : Nat) (r : Run) : decode (depth + 2) r.toTree = some r := by
  have htime : ∀ o : Option Timestamp,
      Decoder.nullable Timestamp.decode (depth + 1) (.optional Timestamp.toTree o) = some o :=
    fun _ => Decoder.nullable_optional (Timestamp.decode_toTree (depth + 1))
      fun t => show Tree.text t.toText ≠ .null from nofun
  have herror : Decoder.nullable Decoder.text (depth + 1) (.optional .text r.error) =
      some r.error := Decoder.nullable_optional (fun _ => rfl) nofun
  refine (Decoder.record_fields (by rfl) (by decide) (depth + 1)).trans ?_
  simp only [Decoder.required, Decoder.optional, List.lookup_cons, String.reduceBEq,
    beq_self_eq_true, Option.bind_some, RunStatus.decode_toTree, htime, herror,
    Decoder.nullOr_list, Decoder.list_text]
  rfl

theorem proper_toTree (r : Run) : r.toTree.Proper := by
  simp [toTree, RunStatus.toTree, Timestamp.toTree]

end Run

/-! ## Snapshots -/

namespace Snapshot

variable {depth : Nat} {d : Snapshot}

/-- What a reader can make that may nest so many containers in a row. -/
def Fits (depth : Nat) (d : Snapshot) : Prop := ∀ r ∈ d.entities, r.Fits depth

/-- The doubles in the properties of all entities. -/
def doubles (d : Snapshot) : List Binary64 := d.entities.flatMap Row.doubles

/-- A snapshot is read back from its tree. -/
theorem decode_toTree (h : d.Fits (depth + 1)) (hkeeps : ∀ x ∈ d.doubles, Numeral.Keeps x) :
    decode (depth + 4) d.toTree = some d := by
  have hsuggestions : ∀ ss : List Suggestion,
      Decoder.list Suggestion.decode (depth + 3) (.list Suggestion.toTree ss) = some ss :=
    fun _ => Decoder.list_list fun s _ => s.decode_toTree (depth + 1)
  have hruns : Decoder.list Run.decode (depth + 3) (.list Run.toTree d.runs) = some d.runs :=
    Decoder.list_list fun r _ => r.decode_toTree depth
  refine (Decoder.record_fields (by rfl) (by decide) (depth + 3)).trans ?_
  simp only [Decoder.optional, List.lookup_cons, String.reduceBEq, beq_self_eq_true,
    Row.decode_list_toTree h hkeeps, hsuggestions, hruns]
  exact dif_pos d.countable

theorem proper_toTree (d : Snapshot) : d.toTree.Proper := by
  simp [toTree, Row.proper_toTree, Suggestion.proper_toTree, Run.proper_toTree]

/-- The entities of a snapshot that was read are some that a reader can make. -/
theorem fits_of_decode {t : Tree} (h : decode (depth + 4) t = some d) : d.Fits (depth + 1) := by
  obtain ⟨given, -, hbuild⟩ := Option.bind_eq_some_iff.mp h
  simp only [Option.bind_eq_bind, Option.bind_eq_some_iff] at hbuild
  obtain ⟨entities, hentities, _, -, _, -, _, -, _, -, hparts⟩ := hbuild
  -- The parts made a snapshot, and so its entities are those that were read.
  obtain ⟨_, hsome⟩ := Option.dite_none_right_eq_some.mp hparts
  obtain rfl := Option.some.inj hsome
  rcases Decoder.eq_or_of_optional hentities with rfl | ⟨t, ht⟩
  · exact nofun
  · exact Row.fits_of_decode_list ht

end Snapshot

/-! ## Configurations -/

namespace Config

variable {α : Type} {name : String} {f : α → Tree} {o : Option α}

/-- A member for a key has that key. -/
theorem keys_member : ((member name f o).map Prod.fst).Sublist [name] := by
  cases o with
  | none => exact List.nil_sublist [name]
  | some _ => exact List.Sublist.refl [name]

/-- What is found under the key of a member. -/
theorem lookup_member : (member name f o).lookup name = o.map f := by
  cases o with
  | none => rfl
  | some _ => exact List.lookup_cons_self

/-- Under another key there is nothing. -/
theorem lookup_member_of_ne {k : String} (h : k ≠ name) : (member name f o).lookup k = none := by
  cases o with
  | none => rfl
  | some _ => rw [member, List.lookup_cons, beq_false_of_ne h, List.lookup_nil]

/-- What is set under a key is read back from a section for that key alone. -/
theorem record_member {d : Decoder α} {depth : Nat} (h : ∀ a, d depth (f a) = some a)
    (hnull : ∀ a, f a ≠ .null) :
    Decoder.record [name] (Decoder.optional none (.nullable d) name) (depth + 1)
      (.record (member name f o)) = some o :=
  (Decoder.record_record keys_member (List.nodup_singleton name) depth).trans
    (Decoder.optional_nullable h hnull lookup_member)

/-- What is set about the snapshot is read back. -/
theorem decodeBackend_members (depth : Nat) (path : Option String) (latency : Option UInt64) :
    decodeBackend (depth + 1) (.record (member "fixture_path" .text path
      ++ member "latency_ms" (fun n => .nat n.toNat) latency)) = some (path, latency) := by
  have hkeys : ((member "fixture_path" .text path ++
      member "latency_ms" (fun n : UInt64 => .nat n.toNat) latency).map Prod.fst).Sublist
        ["fixture_path", "latency_ms"] := by
    rw [List.map_append]
    exact keys_member.append keys_member
  refine (Decoder.record_record hkeys (by decide) depth).trans ?_
  -- Each key is found where it was set, whether the other one was set or not.
  rw [Decoder.optional_nullable (f := .text) (o := path) (fun _ => rfl) nofun,
    Decoder.optional_nullable (o := latency) (Decoder.uint64_nat depth) nofun]
  · rfl
  · rw [List.lookup_append, lookup_member_of_ne (by decide), lookup_member, Option.none_or]
  · rw [List.lookup_append, lookup_member, lookup_member_of_ne (by decide), Option.or_none]

/-- A configuration is read back from its tree. -/
theorem decode_toTree (depth : Nat) (c : Config) : decode (depth + 2) c.toTree = some c := by
  have hlist : decodeList (depth + 1)
      (.record (member "page_size" (fun n => .nat n.toNat) c.pageSize)) = some c.pageSize :=
    record_member (Decoder.uint32_nat depth) nofun
  have hfacets : decodeFacets (depth + 1)
      (.record (member "limit" (fun n => .nat n.toNat) c.suggestionLimit)) =
        some c.suggestionLimit := record_member (Decoder.uint64_nat depth) nofun
  have hpoll : decodePoll (depth + 1)
      (.record (member "interval_ms" (fun n => .nat n.toNat) c.pollInterval)) =
        some c.pollInterval := record_member (Decoder.uint64_nat depth) nofun
  refine (Decoder.record_fields (by rfl) (by decide) (depth + 1)).trans ?_
  simp only [Decoder.optional, List.lookup_cons, String.reduceBEq, beq_self_eq_true, hlist,
    hfacets, hpoll, decodeBackend_members]
  rfl

/-- A member is proper if what it has is. -/
theorem proper_member (hproper : ∀ a, (f a).Proper) : ∀ m ∈ member name f o, m.2.Proper := by
  cases o with
  | none => exact nofun
  | some a => exact fun m hm => List.mem_singleton.mp hm ▸ hproper a

theorem proper_toTree (c : Config) : c.toTree.Proper := by
  have hnat : ∀ {n : Nat}, (Tree.nat n).Proper := Tree.proper_nat _
  simp only [toTree, Tree.proper_record, List.forall_mem_cons, List.forall_mem_append,
    List.not_mem_nil, false_imp_iff, forall_const, and_true]
  exact ⟨proper_member fun _ => hnat, proper_member fun _ => hnat, proper_member fun _ => hnat,
    proper_member Tree.proper_text, proper_member fun _ => hnat⟩

end Config

/-! ## All of them -/

/-- The values of a type **make the round trip** if one whose doubles are kept survives being written
when it fits, and also whenever it was read from a document. -/
structure RoundTrip {α : Type} (decode : Decoder α) (toTree : α → Tree) (Fits : α → Prop)
    (doubles : α → List Binary64) : Prop where
  /-- A value that fits is read back from either of its texts. -/
  survives : ∀ x, Fits x → (∀ y ∈ doubles x, Numeral.Keeps y) → Survives decode toTree x
  /-- To read, to write and to read again is to read. -/
  rereads : ∀ s x, decodeDocument? decode s = some x → (∀ y ∈ doubles x, Numeral.Keeps y) →
    Survives decode toTree x

/-- Values make the round trip if they do so by way of trees. -/
theorem RoundTrip.of_decode {α : Type} {decode : Decoder α} {toTree : α → Tree} {Fits : α → Prop}
    {doubles : α → List Binary64} (hproper : ∀ x, (toTree x).Proper)
    (hback : ∀ {x}, Fits x → (∀ y ∈ doubles x, Numeral.Keeps y) →
      decode nestingLimit (toTree x) = some x)
    (hfits : ∀ {x t}, decode nestingLimit t = some x → Fits x) :
    RoundTrip decode toTree Fits doubles where
  survives x h hkeeps := survives_of_decode (hproper x) (hback h hkeeps)
  rereads s x h hkeeps := by
    obtain ⟨t, -, ht⟩ := Option.bind_eq_some_iff.mp h
    exact survives_of_decode (hproper x) (hback (hfits ht) hkeeps)

/-- Values without doubles make the round trip if they are read back from their trees. -/
theorem RoundTrip.of_all {α : Type} {decode : Decoder α} {toTree : α → Tree}
    (hproper : ∀ x, (toTree x).Proper) (hback : ∀ x, decode nestingLimit (toTree x) = some x) :
    RoundTrip decode toTree (fun _ => True) fun _ => [] :=
  .of_decode hproper (fun {x} _ _ => hback x) fun _ => trivial

/-- **What is written is read back**, from either layout: criteria, suggestions, runs and
configurations always, and rows, pages and snapshots if the properties in them may be nested so deep
and the doubles among these are kept. So reading, writing and reading once more is the same as reading
once. -/
theorem round_trips :
    RoundTrip Criteria.decode Criteria.toTree (fun _ => True) (fun _ => []) ∧
      RoundTrip Row.decode Row.toTree (Row.Fits (nestingLimit - 1)) Row.doubles ∧
      RoundTrip Page.decode Page.toTree (Page.Fits (nestingLimit - 3)) Page.doubles ∧
      RoundTrip Suggestion.decode Suggestion.toTree (fun _ => True) (fun _ => []) ∧
      RoundTrip Run.decode Run.toTree (fun _ => True) (fun _ => []) ∧
      RoundTrip Snapshot.decode Snapshot.toTree (Snapshot.Fits (nestingLimit - 3))
        Snapshot.doubles ∧
      RoundTrip Config.decode Config.toTree (fun _ => True) (fun _ => []) :=
  ⟨.of_all Criteria.proper_toTree (Criteria.decode_toTree _),
    .of_decode Row.proper_toTree Row.decode_toTree Row.fits_of_decode,
    .of_decode Page.proper_toTree Page.decode_toTree Page.fits_of_decode,
    .of_all Suggestion.proper_toTree (Suggestion.decode_toTree _),
    .of_all Run.proper_toTree (Run.decode_toTree _),
    .of_decode Snapshot.proper_toTree Snapshot.decode_toTree Snapshot.fits_of_decode,
    .of_all Config.proper_toTree (Config.decode_toTree _)⟩

/-- A row with properties of every kind, and with what a text has to be careful about. -/
def Row.sample : Row where
  id := 18446744073709551615
  name := "a \"row\"\n\u0001"
  type := ""
  description := "\\ é"
  status := "READY"
  tags := ["one", "one"]
  labels := []
  features := ["x"]
  properties := [
    ("half", .double ⟨false, 4503599627370496, -53⟩),
    ("nested", .array [.object [("deep", .null), ("deeper", .array [.bool true, .integer (-7)])]]),
    ("text", .string "")]

theorem sample_survives : Survives Row.decode Row.toTree Row.sample := by
  refine round_trips.2.1.survives Row.sample ?_ ?_
  · have hinteger : (Value.integer (-7)).Fits 122 := ⟨by decide, by decide⟩
    exact ⟨by decide, trivial, ⟨⟨by decide, trivial, ⟨trivial, hinteger, trivial⟩, trivial⟩, trivial⟩,
      trivial, trivial⟩
  · decide +kernel

end Lookout
