import Lookout.Cli.Listing
import Lookout.Proofs.Wire

/-! # What a list prints as JSON
Asked for JSON, `list` prints one document about its view and the suggestions. Whoever reads it
knows the names of its members and how each of them is written, and nothing of the program. This
file shows **what they find**: the criteria, the rows, the numbers and the suggestions that were
shown.

* `Report`, `Report.decode`: what there is to find, and how it is read.
* `Reports`: a text in which a report is found.
* `reports_listAnswer`: what `list` prints reports its view and the suggestions. -/

namespace Lookout.Cli

open Json Listing Suggestions

/-! ## Reading the document -/

/-- A **report**: what a document says about a list, with its rows in some form. -/
structure Report (α : Type) where
  /-- The criteria. -/
  criteria : Criteria
  /-- Whether they narrow the list. -/
  isFiltered : Bool
  /-- How many rows match. -/
  totalCount : UInt64
  /-- The rows of the page. -/
  rows : List α
  /-- The suggestions. -/
  lists : Lists
  /-- The message in place of the rows. -/
  message : Option String

/-- Read suggestions: tags with their names, and the names of the others. -/
def decodeLists : Decoder Lists := .record ["tags", "labels", "features"] fun depth given => do
  let tags ← Decoder.required (.list Suggestion.decode) "tags" depth given
  let labels ← Decoder.required (.list .text) "labels" depth given
  let features ← Decoder.required (.list .text) "features" depth given
  return ⟨tags.map Suggestion.name, labels, features⟩

/-- Read anything, as the tree it is. -/
def asTree : Decoder Tree := fun _ t => some t

namespace Report

variable {α β : Type}

/-- The names of the members, in their order. -/
def fields : List String :=
  ["criteria", "is_filtered", "total_count", "rows", "facets", "empty_state"]

/-- Read a report; every member must be there. -/
def decode (row : Decoder α) : Decoder (Report α) := .record fields fun depth given => do
  let criteria ← Decoder.required Criteria.decode "criteria" depth given
  let isFiltered ← Decoder.required .bool "is_filtered" depth given
  let totalCount ← Decoder.required .uint64 "total_count" depth given
  let rows ← Decoder.required (.list row) "rows" depth given
  let lists ← Decoder.required decodeLists "facets" depth given
  let message ← Decoder.required (.nullable .text) "empty_state" depth given
  return ⟨criteria, isFiltered, totalCount, rows, lists, message⟩

/-- The same report with its rows in another form. -/
def map (f : α → β) (r : Report α) : Report β :=
  ⟨r.criteria, r.isFiltered, r.totalCount, r.rows.map f, r.lists, r.message⟩

/-- The report on a view and the suggestions. -/
def of (v : View) (l : Lists) : Report Row :=
  ⟨v.criteria, v.isFiltered, v.totalCount, v.rows, l, v.emptyState.map EmptyState.message⟩

end Report

/-- A text **reports** something: whoever reads it finds just that, with the rows as they were
written, and these are read as the rows themselves if all doubles in them are kept. -/
structure Reports (text : String) (r : Report Row) : Prop where
  /-- The rows as they were written. -/
  trees : decodeDocument? (Report.decode asTree) text = some (r.map Row.toTree)
  /-- The rows themselves. -/
  rows : (∀ x ∈ r.rows.flatMap Row.doubles, Numeral.Keeps x) →
    decodeDocument? (Report.decode Row.decode) text = some r

/-! ## What was printed is found -/

variable {α : Type} {row : Decoder α} {rows : List α} {depth : Nat} {v : View} {l : Lists}

/-- Trees are read as they are. -/
theorem list_asTree (rs : List Row) :
    Decoder.list asTree (depth + 1) (.list Row.toTree rs) = some (rs.map Row.toTree) := by
  have hlist : Decoder.list asTree (depth + 1) (.list id (rs.map Row.toTree)) =
      some (rs.map Row.toTree) := Decoder.list_list fun _ _ => rfl
  rwa [Tree.list, List.map_id] at hlist

/-- Suggestions are read back from their tree. -/
theorem decodeLists_toTree (l : Lists) : decodeLists (depth + 3) l.toTree = some l := by
  have htags : Decoder.list Suggestion.decode (depth + 2)
      (.list (fun name => Suggestion.toTree ⟨name⟩) l.tags) =
        some (l.tags.map Suggestion.mk) := by
    have hlist : Decoder.list Suggestion.decode (depth + 2)
        (.list Suggestion.toTree (l.tags.map Suggestion.mk)) = some (l.tags.map Suggestion.mk) :=
      Decoder.list_list fun s _ => s.decode_toTree depth
    rwa [Tree.list, List.map_map] at hlist
  refine (Decoder.record_fields (by rfl) (by decide) (depth + 2)).trans ?_
  simp only [Decoder.required, List.lookup_cons, String.reduceBEq, beq_self_eq_true,
    Option.bind_some, htags, Decoder.list_text, Option.bind_eq_bind, Option.pure_def, List.map_map]
  exact congrArg (fun tags => some (Lists.mk tags l.labels l.features)) (List.map_id _)

/-- **The document is read back**, however its rows are read. -/
theorem decode_document
    (h : Decoder.list row (depth + 3) (.list Row.toTree v.rows) = some rows) :
    Report.decode row (depth + 4) (document v l) = some ⟨v.criteria, v.isFiltered, v.totalCount,
      rows, l, v.emptyState.map EmptyState.message⟩ := by
  have hcriteria := Criteria.decode_toTree (depth + 1) v.criteria
  have hmessage : Decoder.nullable Decoder.text (depth + 3)
      (.optional (fun e => .text e.message) v.emptyState) =
        some (v.emptyState.map EmptyState.message) := by
    cases v.emptyState <;> rfl
  refine (Decoder.record_fields (by rfl) (by decide) (depth + 3)).trans ?_
  simp only [Decoder.required, List.lookup_cons, String.reduceBEq, beq_self_eq_true,
    Option.bind_some, hcriteria, Decoder.uint64_nat, h, decodeLists_toTree, hmessage]
  rfl

theorem proper_document (v : View) (l : Lists) : (document v l).Proper := by
  simp [document, Lists.toTree, Criteria.proper_toTree, Row.proper_toTree,
    Suggestion.proper_toTree, Tree.Proper]

/-- Asked for JSON, `list` prints its document on lines of its own. -/
theorem parse?_listAnswer (v : View) (l : Lists) :
    Tree.parse? (listAnswer true v l) = some (document v l) := by
  have hanswer : listAnswer true v l = (document v l).pretty ++ "\n" := String.empty_append
  rw [hanswer]
  exact Tree.parse?_pretty_newline (proper_document v l)

/-- **What `list` prints as JSON reports what it shows**, if its rows are some that a reader can
make. -/
theorem reports_listAnswer (h : ∀ r ∈ v.rows, r.Fits (nestingLimit - 3)) :
    Reports (listAnswer true v l) (.of v l) := by
  constructor
  · rw [decodeDocument?, parse?_listAnswer, Option.bind_some]
    exact decode_document (list_asTree v.rows)
  · intro hkeeps
    rw [decodeDocument?, parse?_listAnswer, Option.bind_some]
    exact decode_document (Row.decode_list_toTree h hkeeps)

/-! ## Rows of a file -/

/-- A snapshot that was loaded is what the text of its file was read as. -/
theorem decodeDocument?_of_load {path : String} {file : Except ReadFault String} {d : Snapshot}
    (h : Snapshot.load path file = .ok d) :
    ∃ text, file = .ok text ∧ decodeDocument? Snapshot.decode text = some d := by
  cases file with
  | error fault => cases h
  | ok text =>
      refine ⟨text, rfl, ?_⟩
      cases hread : decodeDocument? Snapshot.decode text with
      | none => simp [Snapshot.load, Snapshot.parse, hread] at h
      | some d' =>
          simp only [Snapshot.load, Snapshot.parse, hread] at h
          exact congrArg some (Except.ok.inj h)

/-- The rows of a page of such a snapshot are some that a reader can make. -/
theorem fits_of_load {path : String} {file : Except ReadFault String} {d : Snapshot}
    (h : Snapshot.load path file = .ok d) (k : Criteria) :
    ∀ r ∈ (d.query k).data, r.Fits (nestingLimit - 3) := by
  intro r hr
  obtain ⟨text, -, hread⟩ := decodeDocument?_of_load h
  obtain ⟨t, -, ht⟩ := Option.bind_eq_some_iff.mp hread
  have hmem : r ∈ d.entities :=
    List.mem_of_mem_filter (List.mem_of_mem_drop (List.mem_of_mem_take hr))
  exact Snapshot.fits_of_decode ht r hmem

end Lookout.Cli
