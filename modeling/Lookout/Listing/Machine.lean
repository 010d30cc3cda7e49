import Lookout.Listing.View

/-! # The list machine
Queries are numbered by **tokens**, from one upwards. Only the answer to the query with the newest
token changes what the machine shows, so answers that come out of order never replace fresher ones.
`Machine.begin` issues a token, `Machine.complete` takes the outcome of a query. -/

namespace Lookout.Listing

/-- The **outcome** of a list query. -/
abbrev Outcome := Except CallFailure Page

/-- What became of the outcome of a query. -/
inductive Completion
  /-- It was answered and is shown. -/
  | applied
  /-- It failed; what was shown before stays. -/
  | failed
  /-- A newer query was issued meanwhile, and nothing changes. -/
  | stale
  deriving DecidableEq, Repr

/-- The word for a completion. -/
def Completion.name : Completion → String
  | .applied => "Applied"
  | .failed => "Failed"
  | .stale => "Stale"

/-- A **list machine**: what is known about the newest query, and the last good result. -/
structure Machine where
  /-- The criteria that narrow nothing. -/
  defaults : Criteria
  /-- The criteria of the newest query, or the defaults before the first one. -/
  criteria : Criteria
  /-- The token of the newest query; zero before the first one. -/
  latest : Nat
  /-- Whether the newest query is unanswered. -/
  loading : Bool
  /-- The last good result. -/
  result : Page
  /-- What went wrong with the newest query that came to an end. -/
  lastError : Option String
  deriving DecidableEq, Repr

namespace Machine

/-- A machine before the first query. -/
def initial (defaults : Criteria) : Machine := ⟨defaults, defaults, 0, false, ⟨[], 0⟩, none⟩

/-- Issue a query; its token is the newest one of the machine afterwards. -/
def begin (m : Machine) (c : Criteria) : Machine :=
  { m with criteria := c, latest := m.latest + 1, loading := true }

/-- What becomes of the outcome of a query. -/
def classify (m : Machine) (token : Nat) (outcome : Outcome) : Completion :=
  if token = m.latest then
    match outcome with
    | .ok _ => .applied
    | .error _ => .failed
  else .stale

/-- Take the outcome of a query. -/
def complete (m : Machine) (token : Nat) (outcome : Outcome) : Machine :=
  if token = m.latest then
    match outcome with
    | .ok page => { m with loading := false, result := page, lastError := none }
    | .error e => { m with loading := false, lastError := some e.message }
  else m

theorem complete_of_ne {m : Machine} {token : Nat} (h : token ≠ m.latest) (o : Outcome) :
    m.complete token o = m := if_neg h

theorem classify_eq_stale_iff {m : Machine} {token : Nat} {o : Outcome} :
    m.classify token o = .stale ↔ token ≠ m.latest := by
  unfold classify
  split
  · cases o <;> simp_all
  · simp_all

/-- What the machine shows. -/
def view (m : Machine) : View :=
  ⟨m.result.data, m.result.count, m.loading, m.criteria.isFiltered m.defaults, m.criteria,
    m.lastError⟩

end Machine

end Lookout.Listing
