import Lookout.Number.Shortest

/-! # Shortest decimals have digits
The shortest decimal of a double is searched for on one grid after the other. This file shows that
**the shortest decimal of a double other than zero is not zero**: zero lies outside the interval of
the reals that round to it (`readsBack_zero`), so it is never picked. -/

namespace Lookout.Binary64

variable {x : Binary64} {power : Int} {d : Decimal}

/-- Zero is below all reals that round to another double. -/
theorem roundingInterval_pos (h : x.isZero = false) : 0 < x.roundingInterval.1.1 := by
  have hpos : 0 < x.significand := Nat.pos_of_ne_zero fun hz => by simp [isZero, hz] at h
  have hlow : ∀ n, 0 < n → 0 < (if 0 ≤ x.exponent - 2 then
      (n * Nat.pow 2 (x.exponent - 2).toNat, 1) else (n, Nat.pow 2 (-(x.exponent - 2)).toNat)).1 := by
    intro n hn
    split
    · exact Nat.mul_pos hn (Nat.pow_pos (by decide))
    · exact hn
  unfold roundingInterval
  refine hlow _ ?_
  split <;> omega

/-- Zero does not read back as another double. -/
theorem readsBack_zero (h : x.isZero = false) (power : Int) : x.readsBack ⟨0, power⟩ = false := by
  have hlow := roundingInterval_pos h
  have hnum : (Decimal.toRatio ⟨0, power⟩).1 = 0 := by
    unfold Decimal.toRatio
    split
    · exact Nat.zero_mul _
    · rfl
  have hden : 0 < (Decimal.toRatio ⟨0, power⟩).2 := by
    unfold Decimal.toRatio
    split
    · exact Nat.one_pos
    · exact Nat.pow_pos (by decide)
  have hbelow : ratioLt (Decimal.toRatio ⟨0, power⟩) x.roundingInterval.1 = true := by
    rw [ratioLt, hnum, Nat.zero_mul, decide_eq_true_eq]
    exact Nat.mul_pos hlow hden
  have habove : ratioLt x.roundingInterval.1 (Decimal.toRatio ⟨0, power⟩) = false := by
    rw [ratioLt, hnum, Nat.zero_mul]
    exact decide_eq_false (Nat.not_lt_zero _)
  simp only [readsBack, hbelow, habove, Bool.not_true, Bool.false_and, ite_self]

/-- A decimal that was picked is not zero. -/
theorem coefficient_of_pick (h : x.isZero = false) (hd : x.pick power = some d) :
    d.coefficient ≠ 0 := by
  have hreads : ∀ {q : Nat}, x.readsBack ⟨q, power⟩ = true → q ≠ 0 := by
    rintro q hq rfl
    rw [readsBack_zero h] at hq
    cases hq
  obtain ⟨q, hq⟩ : ∃ q, neighbours x.toRatio.1 x.toRatio.2 power =
      (⟨q, power⟩, ⟨q + 1, power⟩) := ⟨_, rfl⟩
  simp only [pick, hq] at hd
  split at hd
  · cases hd
  · next hbelow _ =>
      obtain rfl := Option.some.inj hd
      exact hreads hbelow
  · obtain rfl := Option.some.inj hd
    exact Nat.succ_ne_zero _
  · next hbelow habove =>
      split at hd
      · obtain rfl := Option.some.inj hd
        exact hreads hbelow
      · split at hd
        · obtain rfl := Option.some.inj hd
          exact Nat.succ_ne_zero _
        · obtain rfl := Option.some.inj hd
          split
          · exact hreads hbelow
          · exact Nat.succ_ne_zero _

/-- The first decimal that reads back is not zero, if there is one. -/
theorem shortestFrom_cases (h : x.isZero = false) (first : Int) (ns : List Nat) :
    x.shortestFrom first ns = ⟨0, 0⟩ ∨ (x.shortestFrom first ns).coefficient ≠ 0 := by
  induction ns with
  | nil => exact .inl rfl
  | cons n ns ih =>
      rw [shortestFrom]
      split
      · next d hd => exact .inr (coefficient_of_pick h hd)
      · exact ih

/-- Zeros at the end that are dropped leave other digits. -/
theorem coefficient_trim {d : Decimal} (h : d.coefficient ≠ 0) (fuel : Nat) :
    (d.trim fuel).coefficient ≠ 0 := by
  induction fuel generalizing d with
  | zero => exact h
  | succ fuel ih =>
      rw [Decimal.trim]
      split
      · next hzero => exact ih (by simp only; omega)
      · exact h

/-- **The shortest decimal is not zero**, unless its power of ten is the zeroth. -/
theorem shortest_cases (x : Binary64) :
    x.shortest = ⟨0, 0⟩ ∨ x.shortest.coefficient ≠ 0 := by
  unfold shortest
  cases h : x.isZero with
  | true => exact .inl rfl
  | false =>
      rcases shortestFrom_cases h (leadingPower x.toRatio.1 x.toRatio.2) (List.range 17) with
        hzero | hne
      · left
        simp [hzero, Decimal.trim]
      · right
        exact coefficient_trim hne _

end Lookout.Binary64
