import Mathlib.Data.List.Nodup
import Mathlib.Data.List.Perm.Basic
import Mathlib.Logic.Relation
import Lookout.Json.Decoder
import Lookout.Proofs.Json.Values

/-! # Other spellings of a document
The same thing can be written in more than one way: members stand in any order, an object that is
read as a record may have members that nobody looks at, and some fields have values that say no more
than their absence does. This file shows that **decoders do not see the difference**.

* `Tree.Reorders`: free-form JSON with the members of an object somewhere in another order.
* `Spelling`: how a record can be spelled; `Spelling.Step`: one thing that is spelled another way.
* `Spelling.Suits`: what has to be known of the way a record is built from its fields.
* `Spelling.Step.record_eq`: the record is the same before the step and after it. -/

namespace Lookout.Json

/-- What is made of either of two results is the same if there are both or none of them. -/
theorem bind_congr_of_both {α β : Type} {x x' : Option α} {f : α → Option β}
    (h : ∀ a, x = some a → ∃ a', x' = some a' ∧ f a = f a')
    (h' : ∀ a', x' = some a' → ∃ a, x = some a) : x.bind f = x'.bind f := by
  cases x with
  | some a =>
      obtain ⟨a', rfl, heq⟩ := h a rfl
      exact heq
  | none =>
      cases x' with
      | none => rfl
      | some a' =>
          obtain ⟨a, ha⟩ := h' a' rfl
          cases ha

/-! ## Members in another order -/

section Members

variable {α : Type} {ms ms' : List (String × α)}

/-- A member with a new key joins the others. -/
theorem perm_putMember {k : String} (h : k ∉ ms.map Prod.fst) (v : α) :
    (putMember k v ms).Perm ((k, v) :: ms) := by
  induction ms with
  | nil => exact .refl _
  | cons m ms ih =>
      obtain ⟨j, w⟩ := m
      rw [List.map_cons, List.mem_cons, not_or] at h
      rw [putMember]
      split
      · exact .refl _
      · rw [if_neg h.1]
        exact ((ih h.2).cons _).trans (.swap _ _ _)

/-- **Members with different keys stay the same members** when they are sorted. -/
theorem perm_sortMembers (h : (ms.map Prod.fst).Nodup) : (sortMembers ms).Perm ms := by
  -- As in `sortMembers_of_ascending`, the induction is on the members that are still to be put.
  have hput : ∀ later earlier : List (String × α), ((later ++ earlier).map Prod.fst).Nodup →
      (later.foldl (fun acc m => putMember m.1 m.2 acc) earlier).Perm (later ++ earlier) := by
    intro later
    induction later with
    | nil => exact fun earlier _ => .refl _
    | cons m later ih =>
        intro earlier hkeys
        have hnew : m.1 ∉ earlier.map Prod.fst := by
          rw [List.cons_append, List.map_cons, List.nodup_cons, List.map_append] at hkeys
          exact fun hm => hkeys.1 (List.mem_append_right _ hm)
        have hmoved : (later ++ putMember m.1 m.2 earlier).Perm (m :: later ++ earlier) :=
          ((perm_putMember hnew m.2).append_left later).trans List.perm_middle
        exact (ih _ ((hmoved.map Prod.fst).nodup_iff.mpr hkeys)).trans hmoved
  have hsorted := hput ms [] (by rwa [List.append_nil])
  rwa [List.append_nil] at hsorted

/-- The order of members with different keys does not matter for sorting them. -/
theorem sortMembers_congr (h : ms.Perm ms') (hkeys : (ms.map Prod.fst).Nodup) :
    sortMembers ms = sortMembers ms' := by
  have hkeys' : (ms'.map Prod.fst).Nodup := (h.map Prod.fst).nodup_iff.mp hkeys
  have hperm := (perm_sortMembers hkeys).trans (h.trans (perm_sortMembers hkeys').symm)
  refine hperm.eq_of_pairwise ?_ (sortMembers_spec ms).1 (sortMembers_spec ms').1
  intro m m' _ _ hlt hgt
  exact absurd hgt (String.lt_asymm hlt)

/-- Looking up a key among different ones finds its member. -/
theorem lookup_eq_some_iff_of_nodup (h : (ms.map Prod.fst).Nodup) {k : String} {v : α} :
    ms.lookup k = some v ↔ (k, v) ∈ ms := by
  induction ms with
  | nil => simp
  | cons m ms ih =>
      obtain ⟨j, w⟩ := m
      rw [List.map_cons, List.nodup_cons] at h
      by_cases hk : k = j
      · subst hk
        have hlater : (k, v) ∉ ms := fun hm => h.1 (List.mem_map.mpr ⟨(k, v), hm, rfl⟩)
        simp [hlater, eq_comm]
      · have hfirst : (k == j) = false := beq_false_of_ne hk
        simp [List.lookup_cons, hfirst, ih h.2, hk]

/-- The order of members with different keys does not matter for looking them up. -/
theorem lookup_congr (h : ms.Perm ms') (hkeys : (ms.map Prod.fst).Nodup) (k : String) :
    ms.lookup k = ms'.lookup k := by
  have hkeys' : (ms'.map Prod.fst).Nodup := (h.map Prod.fst).nodup_iff.mp hkeys
  ext v
  rw [lookup_eq_some_iff_of_nodup hkeys, lookup_eq_some_iff_of_nodup hkeys', h.mem_iff]

end Members

/-! ## Free-form JSON -/

/-- Somewhere in a tree the members of an object stand in **another order**, and no two of them have
the same key. -/
inductive Tree.Reorders : Tree → Tree → Prop
  /-- Those of the tree itself. -/
  | object {ms ms' : List (Text × Tree)} (h : ms.Perm ms') (hkeys : (ms.map Prod.fst).Nodup) :
      Reorders (.object ms) (.object ms')
  /-- Those of an object in an item. -/
  | item {before after : List Tree} {t t' : Tree} (h : Reorders t t') :
      Reorders (.array (before ++ t :: after)) (.array (before ++ t' :: after))
  /-- Those of an object in the value of a member. -/
  | member {before after : List (Text × Tree)} {k : Text} {t t' : Tree} (h : Reorders t t') :
      Reorders (.object (before ++ (k, t) :: after)) (.object (before ++ (k, t') :: after))

namespace Value

variable {depth : Nat} {t t' : Tree}

/-- Of an item only its value is seen. -/
theorem decodeItems_congr (h : decode depth t = decode depth t') (before after : List Tree) :
    decodeItems depth (before ++ t :: after) = decodeItems depth (before ++ t' :: after) := by
  induction before with
  | nil => simp only [List.nil_append, decodeItems, h]
  | cons u before ih => simp only [List.cons_append, decodeItems, ih]

/-- Of a member only its key and its value are seen. -/
theorem decodeMembers_congr (h : decode depth t = decode depth t') (k : Text)
    (before after : List (Text × Tree)) :
    decodeMembers depth (before ++ (k, t) :: after) =
      decodeMembers depth (before ++ (k, t') :: after) := by
  induction before with
  | nil => cases k <;> simp only [List.nil_append, decodeMembers, h]
  | cons m before ih =>
      obtain ⟨j, u⟩ := m
      cases j <;> simp only [List.cons_append, decodeMembers, ih]

/-- The first member is read before the others. -/
theorem decodeMembers_cons_eq_some_iff {m : Text × Tree} {ms : List (Text × Tree)}
    {vs : List (String × Value)} :
    decodeMembers depth (m :: ms) = some vs ↔
      ∃ v ws, (m.1 = some v.1 ∧ decode depth m.2 = some v.2) ∧
        decodeMembers depth ms = some ws ∧ vs = v :: ws := by
  obtain ⟨_ | k, t⟩ := m
  · simp [decodeMembers]
  · cases ht : decode depth t with
    | none => simp [decodeMembers, ht]
    | some v =>
        rw [decodeMembers, ht]
        simp only [Option.map_eq_some_iff]
        constructor
        · rintro ⟨ws, hws, rfl⟩
          exact ⟨(k, v), ws, ⟨rfl, rfl⟩, hws, rfl⟩
        · rintro ⟨⟨j, w⟩, ws, ⟨hj, hw⟩, hws, rfl⟩
          obtain rfl := Option.some.inj hj
          obtain rfl := Option.some.inj hw
          exact ⟨ws, hws, rfl⟩

/-- Members are read one by one. -/
theorem decodeMembers_eq_some_iff {ms : List (Text × Tree)} {vs : List (String × Value)} :
    decodeMembers depth ms = some vs ↔
      List.Forall₂ (fun m v => m.1 = some v.1 ∧ decode depth m.2 = some v.2) ms vs := by
  induction ms generalizing vs with
  | nil => simp [decodeMembers, eq_comm]
  | cons m ms ih =>
      rw [decodeMembers_cons_eq_some_iff, List.forall₂_cons_left_iff]
      simp only [ih]

/-- **The order of members with different keys is not seen.** -/
theorem sortMembers_decodeMembers_congr (depth : Nat) {ms ms' : List (Text × Tree)}
    (h : ms.Perm ms') (hkeys : (ms.map Prod.fst).Nodup) :
    (decodeMembers depth ms).map sortMembers = (decodeMembers depth ms').map sortMembers := by
  -- What is read from one of the lists is read from the other in another order.
  have hread : ∀ {ms ms' : List (Text × Tree)}, ms.Perm ms' → (ms.map Prod.fst).Nodup →
      ∀ vs, decodeMembers depth ms = some vs →
        ∃ vs', decodeMembers depth ms' = some vs' ∧ sortMembers vs = sortMembers vs' := by
    intro ms ms' h hkeys vs hvs
    rw [decodeMembers_eq_some_iff] at hvs
    obtain ⟨vs', hvs', hperm⟩ := List.perm_comp_forall₂ h.symm hvs
    have hfirst : ms.map Prod.fst = (vs.map Prod.fst).map some := by
      rw [List.map_map, ← List.forall₂_eq_eq_eq, List.forall₂_map_left_iff,
        List.forall₂_map_right_iff]
      exact hvs.imp fun _ _ hm => hm.1
    have hnodup : (vs.map Prod.fst).Nodup := by
      rw [hfirst] at hkeys
      exact List.Nodup.of_map some hkeys
    exact ⟨vs', decodeMembers_eq_some_iff.mpr hvs', sortMembers_congr hperm.symm hnodup⟩
  rw [Option.map_eq_bind, Option.map_eq_bind]
  refine bind_congr_of_both (fun vs hvs => ?_) fun vs' hvs' => ?_
  · obtain ⟨vs', hvs', heq⟩ := hread h hkeys vs hvs
    exact ⟨vs', hvs', congrArg some heq⟩
  · obtain ⟨vs, hvs, -⟩ := hread h.symm ((h.map Prod.fst).nodup_iff.mp hkeys) vs' hvs'
    exact ⟨vs, hvs⟩

end Value

/-- **A value is the same** whatever the order of its members. -/
theorem Tree.Reorders.decode_eq {t t' : Tree} (h : t.Reorders t') (depth : Nat) :
    Value.decode depth t = Value.decode depth t' := by
  induction h generalizing depth with
  | object h hkeys =>
      cases depth with
      | zero => rfl
      | succ depth =>
          have hsorted := congrArg (Option.map Value.object)
            (Value.sortMembers_decodeMembers_congr depth h hkeys)
          simp only [Option.map_map] at hsorted
          exact hsorted
  | @item before after t t' _ ih =>
      cases depth with
      | zero => rfl
      | succ depth => simp only [Value.decode, Value.decodeItems_congr (ih depth) before after]
  | @member before after k t t' _ ih =>
      cases depth with
      | zero => rfl
      | succ depth => simp only [Value.decode, Value.decodeMembers_congr (ih depth) k before after]

/-! ## Records -/

/-- How a record can be **spelled** as an object. -/
structure Spelling where
  /-- The names of its fields. -/
  fields : List String
  /-- Values for a field that say no more than its absence. -/
  vacant : String → Tree → Prop
  /-- Values for a field that say the same. -/
  inside : String → Tree → Tree → Prop

/-- **One thing is spelled another way** in an object. Where in it that thing stands does not
matter, since members may be moved before and after. -/
inductive Spelling.Step (S : Spelling) : Tree → Tree → Prop
  /-- The members stand in another order. -/
  | reorder {ms ms' : List (Text × Tree)} (h : ms.Perm ms') : S.Step (.object ms) (.object ms')
  /-- There is a member that is not for any field. -/
  | ignored {k : String} {t : Tree} {ms : List (Text × Tree)} (h : k ∉ S.fields) :
      S.Step (.object ms) (.object ((some k, t) :: ms))
  /-- There is a member in place of the absence of its field. -/
  | vacant {k : String} {t : Tree} {ms : List (Text × Tree)} (h : S.vacant k t)
      (hk : some k ∉ ms.map Prod.fst) : S.Step (.object ms) (.object ((some k, t) :: ms))
  /-- The value for a field is another one that says the same. -/
  | inside {k : String} {t t' : Tree} {ms : List (Text × Tree)} (h : S.inside k t t') :
      S.Step (.object ((some k, t) :: ms)) (.object ((some k, t') :: ms))

/-- A way to build a record from its fields **suits** a spelling if it only looks fields up, takes a
vacant value for the absence of its field, and takes values that say the same for each other. -/
structure Spelling.Suits {α : Type} (S : Spelling) (build : List (String × Tree) → Option α) :
    Prop where
  /-- Nothing but what is found for each field is seen. -/
  of_lookup : ∀ {given given' : List (String × Tree)},
    (∀ k, given.lookup k = given'.lookup k) → build given = build given'
  /-- A vacant value is seen as the absence of its field. -/
  of_vacant : ∀ {k : String} {t : Tree} {given : List (String × Tree)}, S.vacant k t →
    given.lookup k = none → build ((k, t) :: given) = build given
  /-- Values that say the same are seen as the same. -/
  of_inside : ∀ {k : String} {t t' : Tree} {given : List (String × Tree)}, S.inside k t t' →
    build ((k, t) :: given) = build ((k, t') :: given)

section Known

variable {fields : List String} {k : String} {ms ms' : List (Text × Tree)}

/-- What a member gives for a known field. -/
def known? (fields : List String) : Text × Tree → Option (String × Tree)
  | (some k, t) => if k ∈ fields then some (k, t) else none
  | (none, _) => none

/-- A member that is not for a known field gives nothing. -/
theorem knownMembers?_cons_of_not_mem (h : k ∉ fields) (t : Tree) :
    knownMembers? fields ((some k, t) :: ms) = knownMembers? fields ms := by
  rw [knownMembers?]
  cases knownMembers? fields ms with
  | none => rfl
  | some given => simp only [if_neg h]

/-- A member that is for a known field joins the others, unless there is one for this field. -/
theorem knownMembers?_cons_of_mem (h : k ∈ fields) (t : Tree) :
    knownMembers? fields ((some k, t) :: ms) = (knownMembers? fields ms).bind fun later =>
      if k ∈ later.map Prod.fst then none else some ((k, t) :: later) := by
  rw [knownMembers?]
  cases knownMembers? fields ms with
  | none => rfl
  | some later => simp only [if_pos h, Option.bind_some]

/-- **Known members are those with known keys**, if all keys have a text and no known one is
repeated. -/
theorem knownMembers?_eq_some_iff {given : List (String × Tree)} :
    knownMembers? fields ms = some given ↔
      (∀ m ∈ ms, m.1 ≠ none) ∧ ms.filterMap (known? fields) = given ∧
        (given.map Prod.fst).Nodup := by
  induction ms generalizing given with
  | nil =>
      simp only [knownMembers?, Option.some.injEq, List.filterMap_nil]
      exact ⟨fun h => ⟨nofun, h, h ▸ List.nodup_nil⟩, fun h => h.2.1⟩
  | cons m ms ih =>
      obtain ⟨_ | k, t⟩ := m
      · simp [knownMembers?]
      · rw [List.forall_mem_cons]
        by_cases hk : k ∈ fields
        · have hfirst : known? fields (some k, t) = some (k, t) := if_pos hk
          rw [knownMembers?_cons_of_mem hk, List.filterMap_cons_some hfirst,
            Option.bind_eq_some_iff]
          simp only [ih, Option.ite_none_left_eq_some, Option.some.injEq]
          constructor
          · rintro ⟨_, ⟨htexts, rfl, hkeys⟩, hnew, rfl⟩
            exact ⟨⟨nofun, htexts⟩, rfl, List.nodup_cons.mpr ⟨hnew, hkeys⟩⟩
          · rintro ⟨⟨-, htexts⟩, rfl, hkeys⟩
            rw [List.map_cons, List.nodup_cons] at hkeys
            exact ⟨_, ⟨htexts, rfl, hkeys.2⟩, hkeys.1, rfl⟩
        · have hfirst : known? fields (some k, t) = none := if_neg hk
          rw [knownMembers?_cons_of_not_mem hk, List.filterMap_cons_none hfirst, ih]
          exact and_congr_left fun _ => (and_iff_right nofun).symm

/-- The order of members is not seen in what they give for a field. -/
theorem knownMembers?_perm (h : ms.Perm ms') {given : List (String × Tree)}
    (hgiven : knownMembers? fields ms = some given) :
    ∃ given', knownMembers? fields ms' = some given' ∧
      ∀ k, given.lookup k = given'.lookup k := by
  obtain ⟨htexts, rfl, hkeys⟩ := knownMembers?_eq_some_iff.mp hgiven
  have hperm := h.filterMap (known? fields)
  refine ⟨_, knownMembers?_eq_some_iff.mpr ⟨?_, rfl, ?_⟩, lookup_congr hperm hkeys⟩
  · exact fun m hm => htexts m (h.mem_iff.mpr hm)
  · exact (hperm.map Prod.fst).nodup_iff.mp hkeys

/-- A key that no member has is not given. -/
theorem not_mem_of_knownMembers? {given : List (String × Tree)}
    (hgiven : knownMembers? fields ms = some given) (hk : some k ∉ ms.map Prod.fst) :
    k ∉ given.map Prod.fst := by
  obtain ⟨-, rfl, -⟩ := knownMembers?_eq_some_iff.mp hgiven
  intro hmem
  obtain ⟨⟨_, t⟩, hm, rfl⟩ := List.mem_map.mp hmem
  obtain ⟨⟨_ | j, u⟩, hj, hknown⟩ := List.mem_filterMap.mp hm
  · cases hknown
  · rw [known?, Option.ite_none_right_eq_some] at hknown
    obtain ⟨rfl, rfl⟩ := Prod.mk.inj (Option.some.inj hknown.2)
    exact hk (List.mem_map.mpr ⟨_, hj, rfl⟩)

end Known

/-- **A record is the same** in whatever way it is spelled, if the way it is built suits this. -/
theorem Spelling.Step.record_eq {α : Type} {S : Spelling} {t t' : Tree} (h : S.Step t t')
    {build : Nat → List (String × Tree) → Option α} {depth : Nat} (hb : S.Suits (build depth)) :
    Decoder.record S.fields build (depth + 1) t = Decoder.record S.fields build (depth + 1) t' := by
  have hmembers : ∀ ms, Decoder.record S.fields build (depth + 1) (.object ms) =
      (knownMembers? S.fields ms).bind (build depth) := fun _ => rfl
  cases h with
  | @reorder ms ms' h =>
      rw [hmembers, hmembers]
      refine bind_congr_of_both (fun given hgiven => ?_) fun given' hgiven' => ?_
      · obtain ⟨given', hgiven', hlookup⟩ := knownMembers?_perm h hgiven
        exact ⟨given', hgiven', hb.of_lookup hlookup⟩
      · obtain ⟨given, hgiven, -⟩ := knownMembers?_perm h.symm hgiven'
        exact ⟨given, hgiven⟩
  | ignored h => rw [hmembers, hmembers, knownMembers?_cons_of_not_mem h]
  | @vacant k t ms h hk =>
      rw [hmembers, hmembers]
      -- A vacant value for what is no field would not be seen in the first place.
      by_cases hf : k ∈ S.fields
      · rw [knownMembers?_cons_of_mem hf]
        cases hgiven : knownMembers? S.fields ms with
        | none => rfl
        | some given =>
            have hnew := not_mem_of_knownMembers? hgiven hk
            have hnone : given.lookup k = none := List.lookup_eq_none_iff.mpr fun m hm =>
              bne_iff_ne.mpr fun heq => hnew (heq ▸ List.mem_map_of_mem hm)
            simp only [Option.bind_some, if_neg hnew, hb.of_vacant h hnone]
      · rw [knownMembers?_cons_of_not_mem hf]
  | @inside k t t' ms h =>
      rw [hmembers, hmembers]
      -- Either value makes the object unreadable if there is another one for the field.
      by_cases hf : k ∈ S.fields
      · rw [knownMembers?_cons_of_mem hf, knownMembers?_cons_of_mem hf]
        cases knownMembers? S.fields ms with
        | none => rfl
        | some given =>
            simp only [Option.bind_some]
            split
            · rfl
            · exact hb.of_inside h
      · rw [knownMembers?_cons_of_not_mem hf, knownMembers?_cons_of_not_mem hf]

/-! ## Fields and items -/

namespace Decoder

variable {α : Type} {depth : Nat} {default : α} {d : Decoder α} {k name : String} {t : Tree}
  {given : List (String × Tree)}

/-- A field does not see the values for other fields. -/
@[simp] theorem optional_cons_of_ne (h : name ≠ k) :
    optional default d name depth ((k, t) :: given) = optional default d name depth given := by
  rw [optional, optional, List.lookup_cons, beq_false_of_ne h]

/-- A field sees the value for it. -/
@[simp] theorem optional_cons_self :
    optional default d name depth ((name, t) :: given) = d depth t := by
  rw [optional, List.lookup_cons_self]

/-- A field for which there is no value has its default. -/
theorem optional_of_lookup_eq_none (h : given.lookup name = none) :
    optional default d name depth given = some default := by
  rw [optional, h]

/-- A field that must be given does not see the values for other fields either. -/
@[simp] theorem required_cons_of_ne (h : name ≠ k) :
    required d name depth ((k, t) :: given) = required d name depth given := by
  rw [required, required, List.lookup_cons, beq_false_of_ne h]

end Decoder

/-- One item of an array is another one that it is related to. -/
inductive Tree.AtItem (R : Tree → Tree → Prop) : Tree → Tree → Prop
  /-- The items before it and after it are the same. -/
  | intro {before after : List Tree} {t t' : Tree} (h : R t t') :
      AtItem R (.array (before ++ t :: after)) (.array (before ++ t' :: after))

/-- A list is the same if related items are read as the same. -/
theorem Tree.AtItem.list_eq {α : Type} {R : Tree → Tree → Prop} {d : Decoder α} {depth : Nat}
    {t t' : Tree} (h : AtItem R t t') (hd : ∀ {t t'}, R t t' → d depth t = d depth t') :
    Decoder.list d (depth + 1) t = Decoder.list d (depth + 1) t' := by
  obtain ⟨h⟩ := h
  simp only [Decoder.list, List.mapM_append, List.mapM_cons, hd h]

/-- What is the same after every step is the same after any steps, forth and back. -/
theorem eq_of_eqvGen {α : Type} {R : Tree → Tree → Prop} {f : Tree → α} {t t' : Tree}
    (h : Relation.EqvGen R t t') (hf : ∀ {t t'}, R t t' → f t = f t') : f t = f t' := by
  induction h with
  | rel _ _ h => exact hf h
  | refl => rfl
  | symm _ _ _ ih => exact ih.symm
  | trans _ _ _ _ _ ih ih' => exact ih.trans ih'

/-- Documents are read as the same if their trees are. -/
theorem decodeDocument?_congr {α : Type} {d : Decoder α} {s s' : String} {t t' : Tree}
    (hs : Tree.parse? s = some t) (hs' : Tree.parse? s' = some t')
    (h : d nestingLimit t = d nestingLimit t') : decodeDocument? d s = decodeDocument? d s' := by
  rw [decodeDocument?, decodeDocument?, hs, hs', Option.bind_some, Option.bind_some, h]

end Lookout.Json
