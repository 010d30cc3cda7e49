import Lookout.ValueSet

/-! # List criteria
The **criteria** of the list screen: a search text, a set of selected values for each **facet**, a
page size and a page index. Criteria are plain values; each operation of the user, a `Mutation`,
derives new criteria from the current ones. `Criteria.isFiltered` says whether criteria narrow the
listing compared with the defaults. -/

namespace Lookout

/-- A **facet**: a dimension of which several values can be selected. -/
inductive Facet
  | statuses
  | tags
  | labels
  | features
  deriving DecidableEq, Repr

namespace Facet

/-- The facets in their fixed order. -/
def all : List Facet := [.statuses, .tags, .labels, .features]

theorem mem_all (f : Facet) : f ∈ all := by cases f <;> decide

/-- The name a facet goes by in requests. -/
def name : Facet → String
  | .statuses => "statuses"
  | .tags => "tags"
  | .labels => "labels"
  | .features => "features"

end Facet

/-- A **page size**: a positive 32-bit number of rows. -/
structure PageSize where
  /-- The number of rows. -/
  val : UInt32
  /-- A page holds at least one row. -/
  ne_zero : val ≠ 0
  deriving DecidableEq, Repr

namespace PageSize

/-- Ten rows, when nothing else is configured. -/
def standard : PageSize := ⟨10, by decide⟩

instance : Inhabited PageSize := ⟨standard⟩

/-- The page size of so many rows, unless there are none. -/
def ofUInt32? (n : UInt32) : Option PageSize :=
  if h : n = 0 then none else some ⟨n, h⟩

/-- The number of rows as a natural number. -/
def toNat (p : PageSize) : Nat := p.val.toNat

theorem toNat_pos (p : PageSize) : 0 < p.toNat :=
  Nat.pos_of_ne_zero fun h => p.ne_zero (UInt32.toNat_inj.mp h)

theorem toNat_lt (p : PageSize) : p.toNat < UInt32.size := UInt32.toNat_lt p.val

end PageSize

/-- **Criteria**: everything the user asked the listing for. -/
structure Criteria where
  /-- What names are searched for, as typed. -/
  searchText : String
  /-- The selected statuses. -/
  statuses : ValueSet
  /-- The selected tags. -/
  tags : ValueSet
  /-- The selected labels. -/
  labels : ValueSet
  /-- The selected features. -/
  features : ValueSet
  /-- The rows of one page. -/
  pageSize : PageSize
  /-- The page index, counted from zero. -/
  offset : UInt64
  deriving DecidableEq, Repr

namespace Criteria

/-- Criteria that ask for the first page of everything. -/
def ofPageSize (p : PageSize) : Criteria := ⟨"", .empty, .empty, .empty, .empty, p, 0⟩

/-- The criteria in force when nothing is configured. -/
def standard : Criteria := ofPageSize .standard

instance : Inhabited Criteria := ⟨standard⟩

/-- The selection of one facet. -/
def selected (c : Criteria) : Facet → ValueSet
  | .statuses => c.statuses
  | .tags => c.tags
  | .labels => c.labels
  | .features => c.features

/-- Replace the selection of one facet. -/
def select (c : Criteria) (f : Facet) (s : ValueSet) : Criteria :=
  match f with
  | .statuses => { c with statuses := s }
  | .tags => { c with tags := s }
  | .labels => { c with labels := s }
  | .features => { c with features := s }

@[simp] theorem selected_select (c : Criteria) (f g : Facet) (s : ValueSet) :
    (c.select f s).selected g = if g = f then s else c.selected g := by
  cases f <;> cases g <;> rfl

@[simp] theorem searchText_select (c : Criteria) (f : Facet) (s : ValueSet) :
    (c.select f s).searchText = c.searchText := by cases f <;> rfl

@[simp] theorem pageSize_select (c : Criteria) (f : Facet) (s : ValueSet) :
    (c.select f s).pageSize = c.pageSize := by cases f <;> rfl

@[simp] theorem offset_select (c : Criteria) (f : Facet) (s : ValueSet) :
    (c.select f s).offset = c.offset := by cases f <;> rfl

@[simp] theorem selected_ofPageSize (p : PageSize) (f : Facet) :
    (ofPageSize p).selected f = .empty := by cases f <;> rfl

/-- Search for another text. The page index starts again at zero. -/
def search (c : Criteria) (text : String) : Criteria := { c with searchText := text, offset := 0 }

@[simp] theorem selected_search (c : Criteria) (text : String) (f : Facet) :
    (c.search text).selected f = c.selected f := by cases f <;> rfl

/-- Select a value that is not selected, or drop one that is. The page index stays. -/
def toggle (c : Criteria) (f : Facet) (v : String) : Criteria :=
  c.select f ((c.selected f).toggle v)

/-- Turn to a page; pages before the first count as the first. -/
def turnTo (c : Criteria) (page : Int64) : Criteria :=
  { c with offset := UInt64.ofNat page.toInt.toNat }

@[simp] theorem selected_turnTo (c : Criteria) (page : Int64) (f : Facet) :
    (c.turnTo page).selected f = c.selected f := by cases f <;> rfl

/-- Whether criteria narrow the listing compared with the defaults: by a search text, a selected
value or another page size. Turning pages does not narrow anything. -/
def isFiltered (c defaults : Criteria) : Bool :=
  c.searchText ≠ "" || Facet.all.any (fun f => !(c.selected f).isEmpty)
    || c.pageSize ≠ defaults.pageSize

end Criteria

/-- A **mutation**: one thing the user can do to the criteria. -/
inductive Mutation
  | search (text : String)
  | toggle (facet : Facet) (value : String)
  | turnTo (page : Int64)
  | reset
  deriving DecidableEq, Repr

/-- The criteria after a mutation; a reset goes back to the defaults. -/
def Criteria.apply (defaults c : Criteria) : Mutation → Criteria
  | .search text => c.search text
  | .toggle f v => c.toggle f v
  | .turnTo page => c.turnTo page
  | .reset => defaults

end Lookout
