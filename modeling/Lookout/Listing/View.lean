import Lookout.Event

/-! # List views
A **view** is everything the list screen shows at one moment. An empty listing says whether there is
nothing at all or nothing that matches, and a row of the view can be followed to the page of its
entity. -/

namespace Lookout.Listing

/-- A **view**: what the list screen shows. -/
structure View where
  /-- The rows of the last answer that was in time. -/
  rows : List Row
  /-- How many rows matched then. -/
  totalCount : UInt64
  /-- Whether the answer to the newest query is awaited. -/
  loading : Bool
  /-- Whether the criteria narrow the listing. -/
  isFiltered : Bool
  /-- The criteria of the newest query. -/
  criteria : Criteria
  /-- What went wrong with the newest query. -/
  lastError : Option String
  deriving DecidableEq, Repr

/-- Why a listing shows no rows. -/
inductive EmptyState
  /-- There are no entities. -/
  | noData
  /-- There are entities, but none that was asked for. -/
  | noMatchingData
  deriving DecidableEq, Repr

namespace EmptyState

/-- The word for an empty state. -/
def name : EmptyState → String
  | .noData => "no_data"
  | .noMatchingData => "no_matching_data"

/-- What people are told in place of rows. -/
def message : EmptyState → String
  | .noData => "No entities found."
  | .noMatchingData => "No entities match the current filters."

end EmptyState

/-- A **navigation**: the way from a row to the page of its entity. -/
structure Navigation where
  /-- The row. -/
  rowId : String
  /-- The path of the page. -/
  path : String
  deriving DecidableEq, Repr

/-- The way to the page of an entity. -/
def Navigation.ofRow (r : Row) : Navigation := ⟨r.name, "/entities/" ++ r.name⟩

namespace View

/-- Why there are no rows, unless there are some or they are still awaited. -/
def emptyState (v : View) : Option EmptyState :=
  if v.loading || !v.rows.isEmpty then none
  else if v.isFiltered then some .noMatchingData
  else some .noData

/-- The first row with the given name. -/
def row? (v : View) (rowId : String) : Option Row := v.rows.find? (·.name = rowId)

/-- The way to the page of a row that is shown. -/
def select? (v : View) (rowId : String) : Option Navigation := (v.row? rowId).map .ofRow

/-- The event that reports the selection of a row. -/
def selected (v : View) (rowId : String) : Event :=
  match v.select? rowId with
  | some n => .rowSelected rowId n.path
  | none => .rowSelectMissed rowId

/-- Whether the view shows a result for exactly these criteria. -/
def isSettledFor (v : View) (c : Criteria) : Bool := !v.loading && v.criteria = c

end View

end Lookout.Listing
