import Lookout.Event

/-! # The criteria store
A **store** holds the current criteria and publishes every change. Each mutation publishes new
criteria, even if they equal the ones before, so that asking the same again asks anew. The version of
a store counts its publications: whoever remembers a smaller version has not seen the current
criteria. -/

namespace Lookout

/-- A **store**: the criteria in force. -/
structure Store where
  /-- The criteria a reset goes back to. -/
  defaults : Criteria
  /-- The criteria in force. -/
  current : Criteria
  /-- How many times criteria were published. -/
  version : Nat
  deriving DecidableEq, Repr

namespace Store

/-- A store in which the defaults are in force and nothing was published. -/
def ofDefaults (c : Criteria) : Store := ⟨c, c, 0⟩

/-- The store after a mutation. -/
def mutate (s : Store) (m : Mutation) : Store :=
  { s with current := Criteria.apply s.defaults s.current m, version := s.version + 1 }

@[simp] theorem defaults_mutate (s : Store) (m : Mutation) : (s.mutate m).defaults = s.defaults :=
  rfl

@[simp] theorem version_mutate (s : Store) (m : Mutation) :
    (s.mutate m).version = s.version + 1 := rfl

/-- Carry out a mutation: the store after it, and the criteria that it gives back. -/
def operate (s : Store) (m : Mutation) : Store × Criteria :=
  let next := Criteria.apply s.defaults s.current m
  ({ s with current := next, version := s.version + 1 }, next)

/-- A mutation gives back the criteria that it puts in force. -/
theorem operate_eq (s : Store) (m : Mutation) : s.operate m = (s.mutate m, (s.mutate m).current) :=
  rfl

/-- The store after several mutations. -/
def mutateAll (s : Store) (ms : List Mutation) : Store := ms.foldl mutate s

@[simp] theorem mutateAll_nil (s : Store) : s.mutateAll [] = s := rfl

@[simp] theorem mutateAll_cons (s : Store) (m : Mutation) (ms : List Mutation) :
    s.mutateAll (m :: ms) = (s.mutate m).mutateAll ms := rfl

/-- Whether the criteria in force narrow the listing. -/
def isFiltered (s : Store) : Bool := s.current.isFiltered s.defaults

end Store

/-- The word for what a mutation does. -/
def Mutation.operation : Mutation → String
  | .search _ => "set_search_text"
  | .toggle .. => "toggle_facet_value"
  | .turnTo _ => "set_offset"
  | .reset => "reset"

/-- The event that reports the criteria published after a mutation. -/
def Mutation.published (m : Mutation) (c : Criteria) : Event :=
  .criteriaPublished m.operation c.searchText c.offset

end Lookout
