import Lookout.Json.Decoder
import Lookout.Proofs.Json.Printing

/-! # Decoders and what is written for them
A record is written as an object whose members stand for its fields. This file shows that **the
decoders read their values back from what is written**, one form after the other, and that what is
written can be printed.

* `Decoder.record_record`: of an object that was written all members are read.
* `Decoder.list_list`, `Decoder.nullable_optional`, `Decoder.uint64_nat`: the other forms.
* `Survives`: a value is read back from both of its texts. -/

namespace Lookout.Json

/-! ## Proper trees -/

namespace Tree

/-- Items are proper if each of them is. -/
theorem properItems_iff {ts : List Tree} : ProperItems ts ↔ ∀ t ∈ ts, t.Proper := by
  induction ts with
  | nil => simp [ProperItems]
  | cons t ts ih => simp [ProperItems, ih]

/-- Members are proper if the value of each of them is. -/
theorem properMembers_iff {ms : List (Text × Tree)} : ProperMembers ms ↔ ∀ m ∈ ms, m.2.Proper := by
  induction ms with
  | nil => simp [ProperMembers]
  | cons m ms ih => simp [ProperMembers, ih]

@[simp] theorem proper_text (s : String) : (text s).Proper := trivial

@[simp] theorem proper_nat (n : Nat) : (nat n).Proper := Numeral.isWellFormed_digitsOf false n

@[simp] theorem proper_list {α : Type} (f : α → Tree) (xs : List α) :
    (list f xs).Proper ↔ ∀ x ∈ xs, (f x).Proper :=
  properItems_iff.trans List.forall_mem_map

@[simp] theorem proper_record (ms : List (String × Tree)) :
    (record ms).Proper ↔ ∀ m ∈ ms, m.2.Proper :=
  properMembers_iff.trans List.forall_mem_map

@[simp] theorem proper_optional {α : Type} (f : α → Tree) (o : Option α) :
    (optional f o).Proper ↔ ∀ a ∈ o, (f a).Proper := by
  cases o with
  | none => exact iff_of_true trivial nofun
  | some a => exact ⟨fun h b hb => Option.some.inj hb ▸ h, fun h => h a rfl⟩

end Tree

/-! ## Records -/

/-- **Members for known fields are all read**, if no field is given twice. -/
theorem knownMembers?_of_nodup {fields : List String} {ms : List (String × Tree)}
    (hnodup : (ms.map Prod.fst).Nodup) (hknown : ∀ m ∈ ms, m.1 ∈ fields) :
    knownMembers? fields (ms.map fun (k, t) => (some k, t)) = some ms := by
  induction ms with
  | nil => rfl
  | cons m ms ih =>
      obtain ⟨k, t⟩ := m
      rw [List.map_cons, List.nodup_cons] at hnodup
      rw [List.map_cons, knownMembers?,
        ih hnodup.2 fun m hm => hknown m (List.mem_cons_of_mem _ hm)]
      simp only
      rw [if_pos (hknown _ List.mem_cons_self), if_neg hnodup.1]

namespace Decoder

variable {α : Type}

/-- **Of an object that was written all members are read**, if they are for some of the fields in
their order. -/
theorem record_record {fields : List String} {build : Nat → List (String × Tree) → Option α}
    {ms : List (String × Tree)} (hkeys : (ms.map Prod.fst).Sublist fields) (hnodup : fields.Nodup)
    (depth : Nat) : record fields build (depth + 1) (.record ms) = build depth ms := by
  rw [record, Tree.record, members?, knownMembers?_of_nodup (hkeys.nodup hnodup) fun m hm =>
    hkeys.subset (List.mem_map_of_mem hm)]
  rfl

/-- So are the members of an object with all fields. -/
theorem record_fields {fields : List String} {build : Nat → List (String × Tree) → Option α}
    {ms : List (String × Tree)} (hkeys : ms.map Prod.fst = fields) (hnodup : fields.Nodup)
    (depth : Nat) : record fields build (depth + 1) (.record ms) = build depth ms :=
  record_record (hkeys ▸ List.Sublist.refl _) hnodup depth

/-! ## Parts of a record -/

/-- A number of 64 bits is read back. -/
theorem uint64_nat (depth : Nat) (n : UInt64) : uint64 depth (.nat n.toNat) = some n := by
  rw [uint64, Tree.nat, natBelow, Numeral.toNat?_ofNat n.toNat_lt]
  exact congrArg some UInt64.ofNat_toNat

/-- A number of 32 bits is read back. -/
theorem uint32_nat (depth : Nat) (n : UInt32) : uint32 depth (.nat n.toNat) = some n := by
  rw [uint32, Tree.nat, natBelow, Numeral.toNat?_ofNat n.toNat_lt]
  exact congrArg some UInt32.ofNat_toNat

/-- A list is read back if its items are. -/
theorem list_list {d : Decoder α} {f : α → Tree} {depth : Nat} {xs : List α}
    (h : ∀ x ∈ xs, d depth (f x) = some x) : list d (depth + 1) (.list f xs) = some xs := by
  show (xs.map f).mapM (d depth) = some xs
  induction xs with
  | nil => rfl
  | cons x xs ih =>
      rw [List.map_cons, List.mapM_cons, h x List.mem_cons_self,
        ih fun y hy => h y (List.mem_cons_of_mem x hy)]
      rfl

/-- A list of strings is read back. -/
theorem list_text (depth : Nat) (ss : List String) :
    list text (depth + 1) (.list .text ss) = some ss :=
  list_list fun _ _ => rfl

/-- What may be absent is read back, unless it is written as `null` itself. -/
theorem nullable_optional {d : Decoder α} {f : α → Tree} {depth : Nat} {o : Option α}
    (h : ∀ a, d depth (f a) = some a) (hnull : ∀ a, f a ≠ .null) :
    nullable d depth (.optional f o) = some o := by
  cases o with
  | none => rfl
  | some a =>
      rw [Tree.optional, nullable, h]
      · rfl
      · exact hnull a

/-- So is a field with a member only if there is something to write. -/
theorem optional_nullable {d : Decoder α} {f : α → Tree} {name : String} {depth : Nat}
    {given : List (String × Tree)} {o : Option α} (h : ∀ a, d depth (f a) = some a)
    (hnull : ∀ a, f a ≠ .null) (hgiven : given.lookup name = o.map f) :
    optional none (nullable d) name depth given = some o := by
  rw [optional, hgiven]
  cases o with
  | none => rfl
  | some a => exact nullable_optional (o := some a) h hnull

/-- A list is not written as `null`. -/
theorem nullOr_list {default : List α} {β : Type} {d : Decoder (List α)} {f : β → Tree}
    {xs : List β} (depth : Nat) :
    nullOr default d depth (.list f xs) = d depth (.list f xs) := rfl

/-! ## What a decoder makes -/

/-- A field that may be absent has its default, or it was read. -/
theorem eq_or_of_optional {default a : α} {d : Decoder α} {name : String} {depth : Nat}
    {given : List (String × Tree)} (h : optional default d name depth given = some a) :
    a = default ∨ ∃ t, d depth t = some a := by
  rw [optional] at h
  split at h
  · exact .inl (Option.some.inj h).symm
  · exact .inr ⟨_, h⟩

/-- What may be `null` has its default, or it was read. -/
theorem eq_or_of_nullOr {default a : α} {d : Decoder α} {depth : Nat} {t : Tree}
    (h : nullOr default d depth t = some a) : a = default ∨ d depth t = some a := by
  rw [nullOr.eq_def] at h
  split at h
  · exact .inl (Option.some.inj h).symm
  · exact .inr h

/-- Each item of a list was read. -/
theorem exists_of_list {d : Decoder α} {depth : Nat} {t : Tree} {xs : List α}
    (h : list d (depth + 1) t = some xs) : ∀ x ∈ xs, ∃ t, d depth t = some x := by
  cases t with
  | array items =>
      have hitems : items.mapM (d depth) = some xs := h
      clear h
      induction items generalizing xs with
      | nil =>
          obtain rfl := Option.some.inj hitems
          exact nofun
      | cons t items ih =>
          simp only [List.mapM_cons, Option.bind_eq_bind, Option.bind_eq_some_iff,
            Option.pure_def, Option.some.injEq] at hitems
          obtain ⟨y, hy, ys, hys, rfl⟩ := hitems
          intro x hx
          rcases List.mem_cons.mp hx with rfl | htail
          · exact ⟨t, hy⟩
          · exact ih hys x htail
  | _ => cases h

end Decoder

/-! ## Both texts -/

/-- A value **survives** being written if it is read back from either text of its tree. -/
def Survives {α : Type} (decode : Decoder α) (toTree : α → Tree) (x : α) : Prop :=
  decodeDocument? decode (toTree x).compact = some x ∧
    decodeDocument? decode (toTree x).pretty = some x

/-- A value survives if it is read back from its tree, and that can be printed. -/
theorem survives_of_decode {α : Type} {decode : Decoder α} {toTree : α → Tree} {x : α}
    (hproper : (toTree x).Proper) (h : decode nestingLimit (toTree x) = some x) :
    Survives decode toTree x := by
  refine ⟨?_, ?_⟩
  · rw [decodeDocument?, Tree.parse?_compact hproper, Option.bind_some, h]
  · rw [decodeDocument?, Tree.parse?_pretty hproper, Option.bind_some, h]

end Lookout.Json
