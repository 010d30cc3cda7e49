import Lookout.Proofs.Json.Respelling
import Lookout.Snapshot

/-! # Other spellings of snapshots and pages
People and programs that write snapshots do not agree on the order of members, leave out what is
empty or write `null` for it, and add members of their own. This file says which documents are
**spellings of the same** and shows that they are read as the same snapshot, and so give the same
answer to every question. Each kind of record has its spelling, and those of the records in it.

* `Row.spelling`, `Suggestion.spelling`, `Run.spelling`, `Snapshot.spelling`, `Page.spelling`: what
  may be spelled another way, one thing at a time.
* `Snapshot.decode_of_step`, `Page.decode_of_step`: one thing that is spelled another way.
* `respelled_documents_agree`: the whole statement, for any number of them. -/

namespace Lookout

open Json

/-! ## Which spellings there are -/

/-- A row without values for a facet may have `null` or no items there, or not name the facet; the
same goes for its properties. The members anywhere in its properties have no order. -/
def Row.spelling : Spelling where
  fields := Row.fields
  vacant k t :=
    k ∈ ["tags", "labels", "features"] ∧ (t = .null ∨ t = .array []) ∨
      k = "properties" ∧ (t = .null ∨ t = .object [])
  inside k t t' := k = "properties" ∧ t.Reorders t'

/-- A suggestion has no field that could be left out. -/
def Suggestion.spelling : Spelling where
  fields := Suggestion.fields
  vacant _ _ := False
  inside _ _ _ := False

/-- A run without a log may have `null` or no lines there, or not name it; for what is not known
there may be `null` or nothing. -/
def Run.spelling : Spelling where
  fields := Run.fields
  vacant k t :=
    k = "logs" ∧ (t = .null ∨ t = .array []) ∨
      k ∈ ["start_time", "end_time", "error"] ∧ t = .null
  inside _ _ _ := False

/-- In a snapshot each record may be spelled another way. -/
def Snapshot.spelling : Spelling where
  fields := Snapshot.fields
  vacant _ _ := False
  inside k t t' :=
    k = "entities" ∧ Tree.AtItem Row.spelling.Step t t' ∨
      k ∈ ["tags", "labels", "features"] ∧ Tree.AtItem Suggestion.spelling.Step t t' ∨
      k = "task_runs" ∧ Tree.AtItem Run.spelling.Step t t'

/-- A page without rows may have `null` or no items for them, or not name them. -/
def Page.spelling : Spelling where
  fields := Page.fields
  vacant k t := k = "data" ∧ (t = .null ∨ t = .array [])
  inside k t t' := k = "data" ∧ Tree.AtItem Row.spelling.Step t t'

/-! ## One step -/

variable {t t' : Tree}

/-- Properties are the same whatever the order of the members anywhere in them. -/
theorem decodeProperties_of_reorders (h : t.Reorders t') (depth : Nat) :
    decodeProperties depth t = decodeProperties depth t' := by
  cases depth with
  | zero => cases h <;> rfl
  | succ depth =>
      cases h with
      | object h hkeys => exact Value.sortMembers_decodeMembers_congr depth h hkeys
      | item h => rfl
      | @member before after k t t' h =>
          simp only [decodeProperties, Value.decodeMembers_congr (h.decode_eq depth) k before after]

/-- A row is the same after one step. -/
theorem Row.decode_of_step (h : Row.spelling.Step t t') (depth : Nat) :
    Row.decode (depth + 2) t = Row.decode (depth + 2) t' := by
  refine h.record_eq ⟨?_, ?_, ?_⟩
  · intro given given' hlookup
    simp only [Decoder.optional, Decoder.required, hlookup]
  · intro k t given hk hnone
    have hempty : decodeProperties (depth + 1) (.object []) = some [] := rfl
    rcases hk with ⟨hk, rfl | rfl⟩ | ⟨rfl, rfl | rfl⟩
    · simp only [List.mem_cons, List.not_mem_nil, or_false] at hk
      rcases hk with rfl | rfl | rfl <;>
        simp [Decoder.optional_of_lookup_eq_none hnone, Decoder.nullOr]
    · simp only [List.mem_cons, List.not_mem_nil, or_false] at hk
      rcases hk with rfl | rfl | rfl <;>
        simp [Decoder.optional_of_lookup_eq_none hnone, Decoder.nullOr, Decoder.list]
    · simp [Decoder.optional_of_lookup_eq_none hnone, Decoder.nullOr]
    · simp [Decoder.optional_of_lookup_eq_none hnone, Decoder.nullOr, hempty]
  · rintro k t t' given ⟨rfl, h⟩
    have hvalue : Decoder.nullOr [] decodeProperties (depth + 1) t =
        Decoder.nullOr [] decodeProperties (depth + 1) t' := by
      have hproperties := decodeProperties_of_reorders h (depth + 1)
      cases h <;> exact hproperties
    simp [hvalue]

/-- A suggestion is the same after one step. -/
theorem Suggestion.decode_of_step (h : Suggestion.spelling.Step t t') (depth : Nat) :
    Suggestion.decode (depth + 1) t = Suggestion.decode (depth + 1) t' := by
  refine h.record_eq ⟨?_, fun h => h.elim, fun h => h.elim⟩
  intro given given' hlookup
  simp only [Decoder.required, hlookup]

/-- A run is the same after one step. -/
theorem Run.decode_of_step (h : Run.spelling.Step t t') (depth : Nat) :
    Run.decode (depth + 2) t = Run.decode (depth + 2) t' := by
  refine h.record_eq ⟨?_, ?_, fun h => h.elim⟩
  · intro given given' hlookup
    simp only [Decoder.optional, Decoder.required, hlookup]
  · intro k t given hk hnone
    rcases hk with ⟨rfl, rfl | rfl⟩ | ⟨hk, rfl⟩
    · simp [Decoder.optional_of_lookup_eq_none hnone, Decoder.nullOr]
    · simp [Decoder.optional_of_lookup_eq_none hnone, Decoder.nullOr, Decoder.list]
    · simp only [List.mem_cons, List.not_mem_nil, or_false] at hk
      rcases hk with rfl | rfl | rfl <;>
        simp [Decoder.optional_of_lookup_eq_none hnone, Decoder.nullable]

/-- A snapshot is the same after one step. -/
theorem Snapshot.decode_of_step (h : Snapshot.spelling.Step t t') (depth : Nat) :
    Snapshot.decode (depth + 4) t = Snapshot.decode (depth + 4) t' := by
  refine h.record_eq ⟨?_, fun h => h.elim, ?_⟩
  · intro given given' hlookup
    simp only [Decoder.optional, hlookup]
  · rintro k t t' given (⟨rfl, h⟩ | ⟨hk, h⟩ | ⟨rfl, h⟩)
    · simp [h.list_eq fun h => Row.decode_of_step h depth]
    · have hvalue := h.list_eq fun h => Suggestion.decode_of_step h (depth + 1)
      simp only [List.mem_cons, List.not_mem_nil, or_false] at hk
      rcases hk with rfl | rfl | rfl <;> simp [hvalue]
    · simp [h.list_eq fun h => Run.decode_of_step h depth]

/-- A page is the same after one step. -/
theorem Page.decode_of_step (h : Page.spelling.Step t t') (depth : Nat) :
    Page.decode (depth + 4) t = Page.decode (depth + 4) t' := by
  refine h.record_eq ⟨?_, ?_, ?_⟩
  · intro given given' hlookup
    simp only [Decoder.optional, hlookup]
  · rintro k t given ⟨rfl, rfl | rfl⟩ hnone
    · simp [Decoder.optional_of_lookup_eq_none hnone, Decoder.nullOr]
    · simp [Decoder.optional_of_lookup_eq_none hnone, Decoder.nullOr, Decoder.list]
  · rintro k t t' given ⟨rfl, h⟩
    have hvalue : Decoder.nullOr [] (.list Row.decode) (depth + 3) t =
        Decoder.nullOr [] (.list Row.decode) (depth + 3) t' := by
      have hlist := h.list_eq fun h => Row.decode_of_step h depth
      cases h
      exact hlist
    simp [hvalue]

/-! ## Any steps -/

/-- **Other spellings of a document are read as the same.** From a snapshot that can be read, any
number of steps, each of them at any place and forth or back, lead to texts from which the same
snapshot is read: members are reordered, members that nobody looks at come and go, and what is empty
or not known is left out, written as `null` or written as empty. The same goes for pages. -/
theorem respelled_documents_agree :
    (∀ path s s' t t' d, Tree.parse? s = some t → Tree.parse? s' = some t' →
        Relation.EqvGen Snapshot.spelling.Step t t' → Snapshot.parse path s = .ok d →
        Snapshot.parse path s' = .ok d) ∧
      ∀ s s' t t' p, Tree.parse? s = some t → Tree.parse? s' = some t' →
        Relation.EqvGen Page.spelling.Step t t' → decodeDocument? Page.decode s = some p →
        decodeDocument? Page.decode s' = some p := by
  refine ⟨?_, ?_⟩
  · intro path s s' t t' d hs hs' h hd
    have hdocument := decodeDocument?_congr hs hs'
      (eq_of_eqvGen h fun h => Snapshot.decode_of_step h 123)
    rw [Snapshot.parse, ← hdocument]
    exact hd
  · intro s s' t t' p hs hs' h hp
    have hdocument := decodeDocument?_congr hs hs'
      (eq_of_eqvGen h fun h => Page.decode_of_step h 123)
    exact hdocument.symm.trans hp

/-- Somebody else writes the same entity: its tags are left out instead of `null`, the members of
its properties and its own stand in another order, and there is a version that nobody looks at. -/
theorem respelled_entity :
    ∃ s s' d, Snapshot.parse "snapshot.json" s = .ok d ∧
      Snapshot.parse "snapshot.json" s' = .ok d ∧ s ≠ s' ∧ d.entities.map Row.name = ["user"] := by
  let s := "\x7b\"entities\":[\x7b\"tags\":null,\"properties\":\x7b\"b\":1,\"a\":2\x7d," ++
    "\"name\":\"user\"\x7d]\x7d"
  let s' := "\x7b\"version\":3,\"entities\":[\x7b\"name\":\"user\"," ++
    "\"properties\":\x7b\"a\":2,\"b\":1\x7d\x7d]\x7d"
  let user : Row := ⟨0, "user", "", "", "", [], [], [], [("a", .integer 2), ("b", .integer 1)]⟩
  let d : Snapshot := ⟨[user], [], [], [], [], by decide⟩
  let name : Text × Tree := (some "name", .text "user")
  let tags : Text × Tree := (some "tags", .null)
  let version : Text × Tree := (some "version", .nat 3)
  let properties (ms : List (Text × Tree)) : Text × Tree := (some "properties", .object ms)
  let first : Text × Tree := (some "b", .nat 1)
  let second : Text × Tree := (some "a", .nat 2)
  let entities (ms : List (Text × Tree)) : Text × Tree := (some "entities", .array [.object ms])
  have hs : Tree.parse? s = some (.object [entities [tags, properties [first, second], name]]) := by
    decide +kernel
  have hs' : Tree.parse? s' =
      some (.object [version, entities [name, properties [second, first]]]) := by
    decide +kernel
  have hd : Snapshot.parse "snapshot.json" s = .ok d := by
    rw [Snapshot.parse, decodeDocument?, hs]
    decide +kernel
  have row : ∀ {ms ms' : List (Text × Tree)}, Row.spelling.Step (.object ms) (.object ms') →
      Relation.EqvGen Snapshot.spelling.Step (.object [entities ms]) (.object [entities ms']) := by
    intro ms ms' h
    have hitem : Tree.AtItem Row.spelling.Step (.array ([] ++ [.object ms]))
      (.array ([] ++ [.object ms'])) := .intro h
    exact .rel _ _ (.inside (.inl ⟨rfl, hitem⟩))
  have hvacant : Row.spelling.Step (.object [properties [first, second], name])
      (.object [tags, properties [first, second], name]) :=
    .vacant (.inl ⟨by decide, .inl rfl⟩) (by decide)
  have hinside : Row.spelling.Step (.object [properties [first, second], name])
      (.object [properties [second, first], name]) :=
    .inside ⟨rfl, .object (.swap _ _ _) (by decide)⟩
  have hreorder : Row.spelling.Step (.object [properties [second, first], name])
      (.object [name, properties [second, first]]) := .reorder (.swap _ _ _)
  have hignored : Snapshot.spelling.Step (.object [entities [name, properties [second, first]]])
      (.object [version, entities [name, properties [second, first]]]) := .ignored (by decide)
  have h := (((row hvacant).symm.trans _ _ _ (row hinside)).trans _ _ _ (row hreorder)).trans _ _ _
    (.rel _ _ hignored)
  obtain ⟨hagree, -⟩ := respelled_documents_agree
  exact ⟨s, s', d, hd, hagree _ s s' _ _ d hs hs' h hd, by decide, rfl⟩

end Lookout
