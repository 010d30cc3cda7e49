import Lookout.Json.Numeral
import Lookout.Proofs.Number.Shortest

/-! # Numerals that are written
A numeral is written for a natural number, for an integer or for a double. This file shows that all of
these are numerals as JSON text has them, and that **the integers are read back from theirs**. A
double need not be: the reader does not always find the nearest one.

* `Numeral.natOf_digitsOf`: digits spell the number they were made from.
* `Numeral.IsWellFormed`: what JSON demands of a numeral.
* `Numeral.isWellFormed_ofDouble`: all numerals for doubles are well-formed. -/

namespace Lookout.Json.Numeral

/-! ## Digits -/

/-- A number below ten has one digit. -/
theorem digitsOf_of_lt {n : Nat} (h : n < 10) : digitsOf n = [⟨n, h⟩] := by
  rw [digitsOf, Nat.toDigits_of_lt_base h]
  have hdigit : ∀ d : Fin 10, (d.val.digitChar.toNat - 48) % 10 = d.val := by decide
  exact congrArg (fun d => [d]) (Fin.ext (hdigit ⟨n, h⟩))

/-- The last digit of a number is its remainder, the ones before it are those of its tenth. -/
theorem digitsOf_of_le {n : Nat} (h : 10 ≤ n) :
    digitsOf n = digitsOf (n / 10) ++ [⟨n % 10, Nat.mod_lt n (by decide)⟩] := by
  have hlast := digitsOf_of_lt (Nat.mod_lt n (show 10 > 0 by decide))
  rw [digitsOf, Nat.toDigits_of_lt_base (Nat.mod_lt n (by decide))] at hlast
  rw [digitsOf, Nat.toDigits_of_base_le (by decide) h, List.map_append, hlast, ← digitsOf]

/-- One more digit. -/
theorem natOf_concat (ds : List Digit) (d : Digit) : natOf (ds ++ [d]) = 10 * natOf ds + d.val := by
  rw [natOf, List.foldl_append]
  rfl

/-- **Digits spell the number they were made from.** -/
theorem natOf_digitsOf (n : Nat) : natOf (digitsOf n) = n := by
  induction n using Nat.strongRecOn with
  | ind n ih =>
      rcases Nat.lt_or_ge n 10 with hlt | hge
      · rw [digitsOf_of_lt hlt]
        simp [natOf]
      · rw [digitsOf_of_le hge, natOf_concat, ih _ (Nat.div_lt_self (by omega) (by decide))]
        exact Nat.div_add_mod n 10

/-- A number has a digit. -/
theorem digitsOf_ne_nil (n : Nat) : digitsOf n ≠ [] := by
  rcases Nat.lt_or_ge n 10 with hlt | hge
  · rw [digitsOf_of_lt hlt]
    exact List.cons_ne_nil _ _
  · rw [digitsOf_of_le hge]
    exact List.append_ne_nil_of_right_ne_nil _ (List.cons_ne_nil _ _)

/-- The first digit of a number is zero for zero alone. -/
theorem head?_digitsOf_ne {n : Nat} (h : n ≠ 0) : (digitsOf n).head? ≠ some 0 := by
  induction n using Nat.strongRecOn with
  | ind n ih =>
      rcases Nat.lt_or_ge n 10 with hlt | hge
      · rw [digitsOf_of_lt hlt, List.head?_cons]
        exact fun heq => h (congrArg Fin.val (Option.some.inj heq))
      · have hhead := ih (n / 10) (Nat.div_lt_self (by omega) (by decide)) (by omega)
        obtain ⟨d, ds, hds⟩ := List.exists_cons_of_ne_nil (digitsOf_ne_nil (n / 10))
        rw [digitsOf_of_le hge]
        rw [hds] at hhead ⊢
        exact hhead

/-! ## Numerals for integers -/

/-- What JSON demands of a **well-formed** numeral. -/
structure IsWellFormed (n : Numeral) : Prop where
  /-- There is a digit before the point. -/
  whole_ne_nil : n.whole ≠ []
  /-- No zero stands in front of other digits. -/
  eq_zero_of_head : n.whole.head? = some 0 → n.whole = [0]
  /-- There is a digit after a point. -/
  fraction_ne : n.fraction ≠ some []

/-- The digits of a number are well-formed. -/
theorem isWellFormed_digitsOf (negative : Bool) (n : Nat) :
    IsWellFormed ⟨negative, digitsOf n, none, none⟩ where
  whole_ne_nil := digitsOf_ne_nil n
  eq_zero_of_head := by
    intro hhead
    by_cases h : n = 0
    · rw [h]
      exact digitsOf_of_lt (by decide)
    · exact absurd hhead (head?_digitsOf_ne h)
  fraction_ne := nofun

/-- A natural number is read back from its numeral. -/
theorem toInt?_ofNat (n : Nat) : (ofNat n).toInt? = some (n : Int) := by
  simp [toInt?, ofNat, natOf_digitsOf]

/-- **An integer is read back from its numeral.** -/
theorem toInt?_ofInt (i : Int) : (ofInt i).toInt? = some i := by
  simp only [toInt?, ofInt, natOf_digitsOf, decide_eq_true_eq]
  split
  · next hneg =>
      rw [if_neg (by omega)]
      exact congrArg some (by omega)
  · next hneg => exact congrArg some (by omega)

/-- A natural number below the bound is read back from its numeral. -/
theorem toNat?_ofNat {n bound : Nat} (h : n < bound) : (ofNat n).toNat? bound = some n := by
  simp [toNat?, toInt?_ofNat, h]

/-! ## Numerals for doubles -/

/-- A numeral for a double has a point or an exponent, so it spells no integer. -/
theorem toInt?_ofDouble (x : Binary64) : (ofDouble x).toInt? = none := by
  have hnone : ∀ n : Numeral, n.fraction ≠ none ∨ n.exponent ≠ none → n.toInt? = none := by
    intro n hn
    unfold toInt?
    split
    · next hf he => simp [hf, he] at hn
    · rfl
  refine hnone _ ?_
  simp only [ofDouble]
  split
  · exact .inl (Option.some_ne_none _)
  split
  · exact .inl (Option.some_ne_none _)
  split
  · exact .inl (Option.some_ne_none _)
  split
  · exact .inl (Option.some_ne_none _)
  · exact .inr (Option.some_ne_none _)

/-- **The numerals for doubles are well-formed.** -/
theorem isWellFormed_ofDouble (x : Binary64) : (ofDouble x).IsWellFormed := by
  obtain ⟨d, ds, hds⟩ := List.exists_cons_of_ne_nil (digitsOf_ne_nil x.shortest.coefficient)
  -- The first digit is zero only if the decimal is, which then has no power of ten.
  have hfirst : x.shortest = ⟨0, 0⟩ ∨ d ≠ 0 := by
    refine x.shortest_cases.imp_right fun hne heq => head?_digitsOf_ne hne ?_
    rw [hds, heq]
    rfl
  simp only [ofDouble, hds]
  split
  · exact ⟨List.cons_ne_nil _ _, fun _ => rfl, by simp⟩
  split
  · refine ⟨List.cons_ne_nil _ _, fun hhead => ?_, by simp⟩
    rcases hfirst with hzero | hne
    · rw [hzero] at hds ⊢
      rw [← hds]
      rfl
    · exact absurd (Option.some.inj hhead) hne
  split
  · next hexp hpoint =>
      -- The power of ten is negative, so that digits are left for the fraction.
      have hpositive : (List.length (d :: ds) + x.shortest.exponent).toNat ≠ 0 := by omega
      obtain ⟨k, hk⟩ := Nat.exists_eq_succ_of_ne_zero hpositive
      refine ⟨?_, fun hhead => ?_, ?_⟩
      · rw [hk]
        exact List.cons_ne_nil _ _
      · rw [hk] at hhead
        rcases hfirst with hzero | hne
        · have hnone : 0 ≤ x.shortest.exponent :=
            Int.le_of_eq (congrArg Decimal.exponent hzero).symm
          exact absurd ⟨hnone, hpoint.2⟩ hexp
        · exact absurd (Option.some.inj hhead) hne
      · intro hdrop
        have hlength := List.drop_eq_nil_iff.mp (Option.some.inj hdrop)
        omega
  split
  · exact ⟨List.cons_ne_nil _ _, fun _ => rfl, by simp⟩
  · refine ⟨List.cons_ne_nil _ _, fun hhead => ?_, ?_⟩
    · exact congrArg (fun e => [e]) (Option.some.inj hhead)
    · split
      · exact nofun
      · next hrest =>
          intro heq
          rw [Option.some.inj heq] at hrest
          exact hrest rfl

end Lookout.Json.Numeral
