import Lookout.Json.Value
import Lookout.Proofs.Json.Printing

/-! # Values that are written
Free-form values are written as trees and read back from them. This file shows when **a value is read
back from the tree it is written as**: it has to be one that a reader could have made, not nested too
deep for it, and the doubles in it have to be read back from their own numerals.

* `Value.Fits`: what a reader that may nest so many containers can make.
* `Value.fits_of_decode`: it makes nothing else.
* `Numeral.Keeps`, `Value.doubles`: the doubles that are read back, and those in a value.
* `Value.decode_toTree`: the whole statement. -/

namespace Lookout.Json

/-! ## Members in order -/

section Members

variable {α : Type}

/-- Members are **ascending** if their keys are. -/
def Ascending (ms : List (String × α)) : Prop := ms.Pairwise fun m m' => m.1 < m'.1

instance (ms : List (String × α)) : Decidable (Ascending ms) :=
  inferInstanceAs (Decidable (ms.Pairwise _))

/-- A member behind all others is put at the end. -/
theorem putMember_of_lt {k : String} {ms : List (String × α)} (h : ∀ m ∈ ms, m.1 < k) (v : α) :
    putMember k v ms = ms ++ [(k, v)] := by
  induction ms with
  | nil => rfl
  | cons m ms ih =>
      have hlt := h m List.mem_cons_self
      rw [putMember, if_neg (String.lt_asymm hlt), if_neg (Ne.symm (String.ne_of_lt hlt)),
        ih fun n hn => h n (List.mem_cons_of_mem m hn)]
      rfl

/-- **Ascending members stay as they are.** -/
theorem sortMembers_of_ascending {ms : List (String × α)} (h : Ascending ms) :
    sortMembers ms = ms := by
  -- The induction is on the members that are still to be put; those put before are in front.
  have hput : ∀ (later earlier : List (String × α)), Ascending (earlier ++ later) →
      later.foldl (fun acc m => putMember m.1 m.2 acc) earlier = earlier ++ later := by
    intro later
    induction later with
    | nil => exact fun earlier _ => (List.append_nil earlier).symm
    | cons m later ih =>
        intro earlier hall
        obtain ⟨k, v⟩ := m
        have hlast : ∀ n ∈ earlier, n.1 < k := fun n hn =>
          (List.pairwise_append.mp hall).2.2 n hn (k, v) List.mem_cons_self
        show later.foldl _ (putMember k v earlier) = _
        rw [putMember_of_lt hlast, ih _ (by rwa [List.append_assoc]), List.append_assoc]
        rfl
  exact hput ms [] h

/-- What is in the list after a member was put there. -/
theorem mem_putMember {k : String} {v : α} {m : String × α} {ms : List (String × α)}
    (h : m ∈ putMember k v ms) : m = (k, v) ∨ m ∈ ms := by
  induction ms with
  | nil => exact .inl (List.mem_singleton.mp h)
  | cons n ms ih =>
      rw [putMember] at h
      split at h
      · exact List.mem_cons.mp h
      split at h
      · exact (List.mem_cons.mp h).imp_right (List.mem_cons_of_mem n)
      · rcases List.mem_cons.mp h with rfl | htail
        · exact .inr List.mem_cons_self
        · exact (ih htail).imp_right (List.mem_cons_of_mem n)

/-- Members stay ascending when one is put among them. -/
theorem ascending_putMember {ms : List (String × α)} (h : Ascending ms) (k : String) (v : α) :
    Ascending (putMember k v ms) := by
  induction ms with
  | nil => exact List.pairwise_singleton _ _
  | cons n ms ih =>
      obtain ⟨hfirst, hrest⟩ := List.pairwise_cons.mp h
      rw [putMember]
      split
      · next hlt =>
          refine List.pairwise_cons.mpr ⟨fun m hm => ?_, h⟩
          rcases List.mem_cons.mp hm with rfl | htail
          · exact hlt
          · exact String.lt_trans hlt (hfirst m htail)
      · next hge =>
          split
          · next heq =>
              refine List.pairwise_cons.mpr ⟨fun m hm => ?_, hrest⟩
              rw [heq]
              exact hfirst m hm
          · next hne =>
              refine List.pairwise_cons.mpr ⟨fun m hm => ?_, ih hrest⟩
              rcases mem_putMember hm with rfl | htail
              · exact Std.lt_of_le_of_ne (String.not_lt.mp hge) (Ne.symm hne)
              · exact hfirst m htail

/-- **Sorted members are ascending**, and each of them was there before. -/
theorem sortMembers_spec (ms : List (String × α)) :
    Ascending (sortMembers ms) ∧ ∀ m ∈ sortMembers ms, m ∈ ms := by
  have hput : ∀ (later earlier : List (String × α)), Ascending earlier →
      Ascending (later.foldl (fun acc m => putMember m.1 m.2 acc) earlier) ∧
        ∀ m ∈ later.foldl (fun acc m => putMember m.1 m.2 acc) earlier,
          m ∈ earlier ∨ m ∈ later := by
    intro later
    induction later with
    | nil => exact fun earlier hasc => ⟨hasc, fun m hm => .inl hm⟩
    | cons n later ih =>
        intro earlier hasc
        obtain ⟨hresult, hmem⟩ := ih _ (ascending_putMember hasc n.1 n.2)
        refine ⟨hresult, fun m hm => ?_⟩
        rcases hmem m hm with hput | hlater
        · rcases mem_putMember hput with rfl | hearlier
          · exact .inr List.mem_cons_self
          · exact .inl hearlier
        · exact .inr (List.mem_cons_of_mem n hlater)
  obtain ⟨hasc, hmem⟩ := hput ms [] .nil
  exact ⟨hasc, fun m hm => (hmem m hm).resolve_left List.not_mem_nil⟩

end Members

/-! ## Values that a reader makes -/

/-- A double is **kept** if it is read back from its own numeral. -/
def Numeral.Keeps (x : Binary64) : Prop := (ofDouble x).toDouble? = some x

instance (x : Binary64) : Decidable (Numeral.Keeps x) :=
  inferInstanceAs (Decidable (_ = _))

/-- Not all doubles are kept: the reader scales digits by a power of ten, which rounds twice. -/
example : Numeral.Keeps ⟨false, 4503599627370496, -53⟩ ∧
    ¬Numeral.Keeps ⟨false, 6114143417567772, -42⟩ := by
  decide +kernel

namespace Value

mutual

/-- What a reader can make that may nest so many containers: integers of 64 bits, and objects with
each key once, in ascending order. -/
def Fits (depth : Nat) : Value → Prop
  | .integer i => -9223372036854775808 ≤ i ∧ i < UInt64.size
  | .array items => match depth with
    | 0 => False
    | depth + 1 => FitItems depth items
  | .object members => match depth with
    | 0 => False
    | depth + 1 => Ascending members ∧ FitMembers depth members
  | _ => True

/-- Items that a reader can make. -/
def FitItems (depth : Nat) : List Value → Prop
  | [] => True
  | v :: vs => v.Fits depth ∧ FitItems depth vs

/-- Members whose values a reader can make. -/
def FitMembers (depth : Nat) : List (String × Value) → Prop
  | [] => True
  | (_, v) :: ms => v.Fits depth ∧ FitMembers depth ms

end

mutual

/-- The doubles in a value. -/
def doubles : Value → List Binary64
  | .double x => [x]
  | .array items => itemDoubles items
  | .object members => memberDoubles members
  | _ => []

/-- The doubles in the items of an array. -/
def itemDoubles : List Value → List Binary64
  | [] => []
  | v :: vs => v.doubles ++ itemDoubles vs

/-- The doubles in the members of an object. -/
def memberDoubles : List (String × Value) → List Binary64
  | [] => []
  | (_, v) :: ms => v.doubles ++ memberDoubles ms

end

/-- Members are made one by one. -/
theorem fitMembers_iff {depth : Nat} {ms : List (String × Value)} :
    FitMembers depth ms ↔ ∀ m ∈ ms, m.2.Fits depth := by
  induction ms with
  | nil => simp [FitMembers]
  | cons m ms ih => simp [FitMembers, ih]

/-- Sorting makes no new members. -/
theorem fitMembers_sortMembers {depth : Nat} {ms : List (String × Value)}
    (h : FitMembers depth ms) : FitMembers depth (sortMembers ms) :=
  fitMembers_iff.mpr fun m hm => fitMembers_iff.mp h m ((sortMembers_spec ms).2 m hm)

/-- A numeral makes an integer of 64 bits or a double. -/
theorem fits_of_ofNumeral {n : Numeral} {v : Value} (h : ofNumeral? n = some v) (depth : Nat) :
    v.Fits depth := by
  have hdouble : ∀ {o : Option Binary64}, o.map Value.double = some v → v.Fits depth := by
    intro o ho
    obtain ⟨x, -, rfl⟩ := Option.map_eq_some_iff.mp ho
    exact trivial
  rw [ofNumeral?] at h
  split at h
  · split at h
    · next hrange =>
        obtain rfl := Option.some.inj h
        exact hrange
    · exact hdouble h
  · exact hdouble h

mutual

/-- **A reader makes nothing that does not fit.** -/
theorem fits_of_decode : {t : Tree} → {depth : Nat} → {v : Value} → decode depth t = some v →
    v.Fits depth
  | .null, _, _, h => by
      obtain rfl := Option.some.inj h
      exact trivial
  | .bool _, _, _, h => by
      obtain rfl := Option.some.inj h
      exact trivial
  | .number _, depth, _, h => fits_of_ofNumeral h depth
  | .string none, _, _, h => nomatch h
  | .string (some _), _, _, h => by
      obtain rfl := Option.some.inj h
      exact trivial
  | .array _, 0, _, h => nomatch h
  | .array items, depth + 1, v, h => by
      obtain ⟨vs, hvs, rfl⟩ := Option.map_eq_some_iff.mp h
      exact fitItems_of_decodeItems hvs
  | .object _, 0, _, h => nomatch h
  | .object members, depth + 1, v, h => by
      obtain ⟨ms, hms, rfl⟩ := Option.map_eq_some_iff.mp h
      exact ⟨(sortMembers_spec ms).1, fitMembers_sortMembers (fitMembers_of_decodeMembers hms)⟩

/-- The items that a reader makes fit. -/
theorem fitItems_of_decodeItems : {ts : List Tree} → {depth : Nat} → {vs : List Value} →
    decodeItems depth ts = some vs → FitItems depth vs
  | [], _, _, h => by
      obtain rfl := Option.some.inj h
      exact trivial
  | t :: ts, depth, vs, h => by
      rw [decodeItems] at h
      split at h
      · cases h
      · next v hv =>
          obtain ⟨ws, hws, rfl⟩ := Option.map_eq_some_iff.mp h
          exact ⟨fits_of_decode hv, fitItems_of_decodeItems hws⟩

/-- The members that a reader makes fit. -/
theorem fitMembers_of_decodeMembers : {ts : List (Text × Tree)} → {depth : Nat} →
    {ms : List (String × Value)} → decodeMembers depth ts = some ms → FitMembers depth ms
  | [], _, _, h => by
      obtain rfl := Option.some.inj h
      exact trivial
  | (none, _) :: _, _, _, h => nomatch h
  | (some k, t) :: ts, depth, ms, h => by
      rw [decodeMembers] at h
      split at h
      · cases h
      · next v hv =>
          obtain ⟨ns, hns, rfl⟩ := Option.map_eq_some_iff.mp h
          exact ⟨fits_of_decode hv, fitMembers_of_decodeMembers hns⟩

end

/-! ## Values that are read back -/

/-- An integer of 64 bits is read back. -/
theorem ofNumeral?_ofInt {i : Int} (h : -9223372036854775808 ≤ i ∧ i < UInt64.size) :
    ofNumeral? (.ofInt i) = some (.integer i) := by
  rw [ofNumeral?, Numeral.toInt?_ofInt]
  exact if_pos h

/-- A double that is kept is read back. -/
theorem ofNumeral?_ofDouble {x : Binary64} (h : Numeral.Keeps x) :
    ofNumeral? (.ofDouble x) = some (.double x) := by
  rw [ofNumeral?, Numeral.toInt?_ofDouble, h]
  rfl

mutual

/-- **A value is read back from its tree**, if it fits and its doubles are kept. -/
theorem decode_toTree : {v : Value} → {depth : Nat} → v.Fits depth →
    (∀ x ∈ v.doubles, Numeral.Keeps x) → decode depth v.toTree = some v
  | .null, _, _, _ => rfl
  | .bool _, _, _, _ => rfl
  | .integer _, _, h, _ => ofNumeral?_ofInt h
  | .double x, _, _, hkeeps => ofNumeral?_ofDouble (hkeeps x List.mem_cons_self)
  | .string _, _, _, _ => rfl
  | .array _, 0, h, _ => h.elim
  | .array items, depth + 1, h, hkeeps => by
      rw [toTree, decode, decodeItems_itemsToTrees h hkeeps]
      rfl
  | .object _, 0, h, _ => h.elim
  | .object members, depth + 1, h, hkeeps => by
      rw [toTree, decode, decodeMembers_membersToTrees h.2 hkeeps]
      exact congrArg (fun ms => some (object ms)) (sortMembers_of_ascending h.1)

/-- Items are read back from their trees. -/
theorem decodeItems_itemsToTrees : {vs : List Value} → {depth : Nat} → FitItems depth vs →
    (∀ x ∈ itemDoubles vs, Numeral.Keeps x) → decodeItems depth (itemsToTrees vs) = some vs
  | [], _, _, _ => rfl
  | v :: vs, depth, h, hkeeps => by
      rw [itemsToTrees, decodeItems,
        decode_toTree h.1 fun x hx => hkeeps x (List.mem_append_left _ hx),
        decodeItems_itemsToTrees h.2 fun x hx => hkeeps x (List.mem_append_right _ hx)]
      rfl

/-- Members are read back from their trees. -/
theorem decodeMembers_membersToTrees : {ms : List (String × Value)} → {depth : Nat} →
    FitMembers depth ms → (∀ x ∈ memberDoubles ms, Numeral.Keeps x) →
      decodeMembers depth (membersToTrees ms) = some ms
  | [], _, _, _ => rfl
  | (k, v) :: ms, depth, h, hkeeps => by
      rw [membersToTrees, decodeMembers,
        decode_toTree h.1 fun x hx => hkeeps x (List.mem_append_left _ hx),
        decodeMembers_membersToTrees h.2 fun x hx => hkeeps x (List.mem_append_right _ hx)]
      rfl

end

mutual

/-- The numerals of a value are well-formed. -/
theorem proper_toTree : (v : Value) → v.toTree.Proper
  | .null => trivial
  | .bool _ => trivial
  | .integer i => Numeral.isWellFormed_digitsOf (i < 0) i.natAbs
  | .double x => Numeral.isWellFormed_ofDouble x
  | .string _ => trivial
  | .array items => properItems_itemsToTrees items
  | .object members => properMembers_membersToTrees members

/-- The numerals of items are well-formed. -/
theorem properItems_itemsToTrees : (vs : List Value) → Tree.ProperItems (itemsToTrees vs)
  | [] => trivial
  | v :: vs => ⟨proper_toTree v, properItems_itemsToTrees vs⟩

/-- The numerals of members are well-formed. -/
theorem properMembers_membersToTrees :
    (ms : List (String × Value)) → Tree.ProperMembers (membersToTrees ms)
  | [] => trivial
  | (_, v) :: ms => ⟨proper_toTree v, properMembers_membersToTrees ms⟩

end

end Value

end Lookout.Json
