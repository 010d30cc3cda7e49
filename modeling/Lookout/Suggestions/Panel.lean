import Lookout.Event

/-! # The filter panel
What the filter panel offers: for each kind a list of suggested values, no longer than a limit, and
which of the lists are still awaited. -/

namespace Lookout.Suggestions

/-- The **lists** of the filter panel. -/
structure Lists where
  /-- The suggested tags. -/
  tags : List String
  /-- The suggested labels. -/
  labels : List String
  /-- The suggested features. -/
  features : List String
  deriving DecidableEq, Repr

namespace Lists

/-- Lists without suggestions. -/
def empty : Lists := ⟨[], [], []⟩

/-- The list of a kind. -/
def ofKind (l : Lists) : SuggestionKind → List String
  | .tags => l.tags
  | .labels => l.labels
  | .features => l.features

/-- The first suggestions up to a limit. -/
def capped (limit : Nat) (suggestions : List Suggestion) : List String :=
  (suggestions.take limit).map Suggestion.name

/-- Replace the list of a kind by the first suggestions up to a limit. -/
def put (l : Lists) (k : SuggestionKind) (suggestions : List Suggestion) (limit : Nat) : Lists :=
  match k with
  | .tags => { l with tags := capped limit suggestions }
  | .labels => { l with labels := capped limit suggestions }
  | .features => { l with features := capped limit suggestions }

@[simp] theorem ofKind_put (l : Lists) (k j : SuggestionKind) (s : List Suggestion) (limit : Nat) :
    (l.put k s limit).ofKind j = if j = k then capped limit s else l.ofKind j := by
  cases k <;> cases j <;> rfl

@[simp] theorem ofKind_empty (k : SuggestionKind) : empty.ofKind k = [] := by cases k <;> rfl

end Lists

/-- A **panel**: the lists and the kinds still awaited. -/
structure Panel where
  /-- The lists. -/
  lists : Lists
  /-- The kinds awaited, in the fixed order of kinds. -/
  pending : List SuggestionKind
  deriving DecidableEq, Repr

namespace Panel

/-- A panel before anything was loaded. -/
def blank : Panel := ⟨.empty, []⟩

/-- A panel that awaits everything. -/
def awaiting : Panel := ⟨.empty, SuggestionKind.all⟩

/-- Whether nothing is awaited. -/
def isSettled (p : Panel) : Bool := p.pending.isEmpty

/-- Await nothing any more. -/
def abandon (p : Panel) : Panel := { p with pending := [] }

/-- Take the outcome for a kind: its list, or the failure to get one, which leaves the list alone. -/
def receive (p : Panel) (k : SuggestionKind) (limit : Nat) :
    Except CallFailure (List Suggestion) → Panel
  | .ok s => ⟨p.lists.put k s limit, p.pending.filter (· ≠ k)⟩
  | .error _ => { p with pending := p.pending.filter (· ≠ k) }

end Panel

end Lookout.Suggestions
