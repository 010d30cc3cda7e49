/-! # Value sets
A **value set** is a finite set of strings kept as a strictly ascending list, so that two sets with
the same members are the same value and every listing of a set is in code-point order. The facet
selections of the list screen are value sets. -/

namespace Lookout

/-- Insert a string into an ascending list, keeping it ascending and free of duplicates. -/
def insertAscending (v : String) : List String → List String
  | [] => [v]
  | w :: ws =>
    if v < w then v :: w :: ws
    else if v = w then w :: ws
    else w :: insertAscending v ws

theorem mem_insertAscending {v w : String} :
    ∀ {l : List String}, w ∈ insertAscending v l ↔ w = v ∨ w ∈ l
  | [] => by simp [insertAscending]
  | x :: xs => by
    simp only [insertAscending]
    split
    · simp
    · split
      · next h => subst h; simp
      · simp only [List.mem_cons, mem_insertAscending (l := xs)]
        exact or_left_comm

theorem pairwise_insertAscending {v : String} :
    ∀ {l : List String}, l.Pairwise (· < ·) → (insertAscending v l).Pairwise (· < ·)
  | [], _ => by simp [insertAscending]
  | x :: xs, h => by
    have ⟨hx, hxs⟩ := List.pairwise_cons.mp h
    simp only [insertAscending]
    split
    · next hv =>
      refine List.pairwise_cons.mpr ⟨fun y hy => ?_, h⟩
      rcases List.mem_cons.mp hy with rfl | hy
      · exact hv
      · exact String.lt_trans hv (hx y hy)
    · next hv =>
      split
      · exact h
      · next hne =>
        refine List.pairwise_cons.mpr ⟨fun y hy => ?_, pairwise_insertAscending hxs⟩
        rcases mem_insertAscending.mp hy with rfl | hy
        · exact Std.lt_of_le_of_ne (String.not_lt.mp hv) (Ne.symm hne)
        · exact hx y hy

/-- A **value set**: a strictly ascending list of strings. -/
structure ValueSet where
  /-- The members in code-point order. -/
  toList : List String
  /-- Ascending order, hence no duplicates. -/
  ascending : toList.Pairwise (· < ·)
  deriving DecidableEq, Repr

namespace ValueSet

/-- The set without members. -/
def empty : ValueSet := ⟨[], .nil⟩

instance : Inhabited ValueSet := ⟨empty⟩

instance : Membership String ValueSet := ⟨fun s v => v ∈ s.toList⟩

theorem mem_def {s : ValueSet} {v : String} : v ∈ s ↔ v ∈ s.toList := Iff.rfl

instance (s : ValueSet) (v : String) : Decidable (v ∈ s) :=
  inferInstanceAs (Decidable (v ∈ s.toList))

@[simp] theorem not_mem_empty (v : String) : v ∉ empty := List.not_mem_nil

/-- Whether the set has no member. -/
def isEmpty (s : ValueSet) : Bool := s.toList.isEmpty

theorem isEmpty_iff {s : ValueSet} : s.isEmpty = true ↔ s = empty := by
  cases s with
  | mk l h => cases l <;> simp [isEmpty, empty]

/-- Add a string; nothing changes if it is a member already. -/
def insert (s : ValueSet) (v : String) : ValueSet :=
  ⟨insertAscending v s.toList, pairwise_insertAscending s.ascending⟩

@[simp] theorem mem_insert {s : ValueSet} {v w : String} : w ∈ s.insert v ↔ w = v ∨ w ∈ s :=
  mem_insertAscending

/-- Remove a string; nothing changes if it is no member. -/
def erase (s : ValueSet) (v : String) : ValueSet :=
  ⟨s.toList.filter (· ≠ v), s.ascending.filter _⟩

@[simp] theorem mem_erase {s : ValueSet} {v w : String} : w ∈ s.erase v ↔ w ∈ s ∧ w ≠ v := by
  simp [mem_def, erase]

/-- Add a string that is absent, remove one that is present. -/
def toggle (s : ValueSet) (v : String) : ValueSet :=
  if v ∈ s then s.erase v else s.insert v

/-- Toggling `v` flips the membership of `v` and of nothing else. -/
theorem mem_toggle {s : ValueSet} {v w : String} :
    w ∈ s.toggle v ↔ if w = v then w ∉ s else w ∈ s := by
  by_cases hv : v ∈ s <;> by_cases hw : w = v <;> simp [toggle, hv, hw]

/-- The set of all members of a list. -/
def ofList (l : List String) : ValueSet := l.foldl insert empty

theorem mem_foldl_insert {w : String} :
    ∀ {l : List String} {s : ValueSet}, w ∈ l.foldl insert s ↔ w ∈ l ∨ w ∈ s
  | [], s => by simp
  | v :: l, s => by
    simp only [List.foldl_cons, mem_foldl_insert (l := l), mem_insert, List.mem_cons]
    constructor
    · rintro (h | h | h)
      · exact .inl (.inr h)
      · exact .inl (.inl h)
      · exact .inr h
    · rintro ((h | h) | h)
      · exact .inr (.inl h)
      · exact .inl h
      · exact .inr (.inr h)

@[simp] theorem mem_ofList {l : List String} {w : String} : w ∈ ofList l ↔ w ∈ l := by
  simp [ofList, mem_foldl_insert]

end ValueSet

end Lookout
