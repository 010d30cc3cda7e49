import Lookout.Proofs.Polling.Suppression

/-! # Tickers that miss nothing
A ticker skips points of its grid if it is late. This file is about one that never is: **whenever its
poller has fallen asleep, it shows the first point of the grid after that time.**

* `Ticker.dueAfter`: the first point of a grid after a time.
* `Poller.ticker_turns`: what a wake-up makes of the ticker.
* `Poller.ticker_turns_of_grid`: it shows the next point. -/

namespace Lookout.Polling

/-! ## The points of a grid -/

namespace Ticker

/-- The first point after a time of the grid that begins at `start`. -/
def dueAfter (start period time : Nat) : Nat :=
  if time < start then start else start + ((time - start) / period + 1) * period

variable {start period x y : Nat}

/-- There is a point after every time. -/
theorem lt_dueAfter (hpos : 0 < period) (time : Nat) : time < dueAfter start period time := by
  have hlt := Nat.lt_div_mul_add (a := time - start) hpos
  unfold dueAfter
  split
  · assumption
  · rw [Nat.succ_mul]
    omega

/-- Up to the next point of the grid, that point stays the next one. -/
theorem dueAfter_eq (hle : x ≤ y) (hlt : y < dueAfter start period x) :
    dueAfter start period y = dueAfter start period x := by
  unfold dueAfter at hlt ⊢
  by_cases hx : x < start
  · rw [if_pos hx] at hlt ⊢
    exact if_pos hlt
  · rw [if_neg hx] at hlt ⊢
    have hbelow := Nat.div_mul_le_self (x - start) period
    have hdiv : (y - start) / period = (x - start) / period :=
      Nat.div_eq_of_lt_le (by omega) (by omega)
    rw [if_neg (by omega), hdiv]

/-- The point after a point is one period later. -/
theorem dueAfter_dueAfter (hpos : 0 < period) (x : Nat) :
    dueAfter start period (dueAfter start period x) = dueAfter start period x + period := by
  have hpoint : ∀ k, dueAfter start period (start + k * period) = start + k * period + period := by
    intro k
    rw [dueAfter, if_neg (by omega), Nat.add_sub_cancel_left, Nat.mul_div_cancel _ hpos,
      Nat.succ_mul, Nat.add_assoc]
  have hx : ∃ k, dueAfter start period x = start + k * period := by
    unfold dueAfter
    split
    · exact ⟨0, by omega⟩
    · exact ⟨_, rfl⟩
  obtain ⟨k, hk⟩ := hx
  rw [hk, hpoint]

/-- A grid of which a time `first` would be a point, too, has a point for every multiple of its
period after that time. -/
theorem dueAfter_add (hpos : 0 < period) (first time : Nat) :
    dueAfter (first + period) period (first + time) = first + (time / period + 1) * period := by
  unfold dueAfter
  split
  · next hlt =>
      rw [Nat.div_eq_of_lt (by omega)]
      omega
  · next hle =>
      have htime : first + time - (first + period) = time - period := by omega
      have hdiv : time / period = (time - period) / period + 1 :=
        Nat.div_eq_sub_div hpos (by omega)
      rw [htime, hdiv]
      simp only [Nat.succ_mul]
      omega

/-- A tick that is taken when it is due is followed by one a period later. -/
theorem take_due (t : Ticker) : t.take t.due = { t with due := t.due + t.period } := by
  rw [take, Nat.sub_self, if_neg (Nat.not_lt_zero _)]

end Ticker

namespace Poller

/-! ## The ticker during a wake-up -/

variable {now : Nat} {answers : Nat → Option Outcome}

/-- A tick is due iff the ticker says so. -/
theorem dueTicker?_of_ticker {p : Poller} {t : Ticker} (h : p.ticker = some t) (now : Nat) :
    p.dueTicker? now = if t.isDue now = true then some (t.take now) else none := by
  rw [dueTicker?, h]
  rfl

/-- A wake-up takes the tick that is due, and only that, if the next one is not due yet. -/
theorem ticker_turns {p : Poller} {t : Ticker} (h : p.ticker = some t)
    (hnext : t.isDue now = true → (t.take now).isDue now = false) :
    (p.turns now answers).1.ticker = some (if t.isDue now = true then t.take now else t) := by
  revert t
  refine turns_induction (motive := fun p r => ∀ {t : Ticker}, p.ticker = some t →
    (t.isDue now = true → (t.take now).isDue now = false) →
      r.1.ticker = some (if t.isDue now = true then t.take now else t)) ?_ ?_ p
  · intro p ht t h _
    have hnone : p.dueTicker? now = none :=
      Decidable.not_not.mp fun hdue => (turn_eq_none_iff.mp ht).1 (.inr hdue)
    rw [dueTicker?_of_ticker h] at hnone
    split at hnone
    · cases hnone
    · next hdue => rw [if_neg hdue, h]
  · intro p q e r ht ih t h hnext
    rcases turn_cases ht with ⟨n, -, rfl, -⟩ | ⟨-, u, hdue, rfl, -⟩ | ⟨-, -, o, -, rfl, -⟩
    · exact ih ((ticker_trigger _).trans h) hnext
    · rw [dueTicker?_of_ticker h] at hdue
      split at hdue
      · next hd =>
          obtain rfl := Option.some.inj hdue
          have hu := hnext hd
          have hr := ih (ticker_trigger _) (by simp [hu])
          rw [if_neg (by simp [hu])] at hr
          rw [if_pos hd, hr]
      · cases hdue
    · exact ih h hnext

/-- A ticker that shows the next point of its grid shows the one after it once that has come. -/
theorem ticker_turns_of_grid {p : Poller} {t : Ticker} {start before : Nat} (h : p.ticker = some t)
    (hdue : t.due = Ticker.dueAfter start t.period before) (hle : before ≤ now)
    (hnot : now ≤ t.due) :
    (p.turns now answers).1.ticker =
      some { t with due := Ticker.dueAfter start t.period now } := by
  have hpos := t.period_pos
  rcases Nat.lt_or_eq_of_le hnot with hlt | rfl
  · have hno : ¬t.isDue now = true := by simpa [Ticker.isDue] using hlt
    rw [ticker_turns h fun hd => absurd hd hno, if_neg hno, Ticker.dueAfter_eq hle (hdue ▸ hlt),
      ← hdue]
  · have hd : t.isDue t.due = true := by simp [Ticker.isDue]
    have hnext : (t.take t.due).isDue t.due = false := by
      rw [Ticker.take_due, Ticker.isDue]
      exact decide_eq_false (Nat.not_le.mpr (Nat.lt_add_of_pos_right hpos))
    have hpoint : Ticker.dueAfter start t.period t.due = t.due + t.period := by
      rw [hdue]
      exact Ticker.dueAfter_dueAfter hpos before
    rw [ticker_turns h fun _ => hnext, if_pos hd, Ticker.take_due, hpoint]

/-! ## Whole wake-ups -/

/-- A poller that has few turns left is not stopped: a stretch of it is a whole wake-up. -/
theorem wake_of_budget_lt {p : Poller} (hrun : p.running = true)
    (h : p.budget now < longestStretch) :
    (p.wake now answers).poller = ((p.wind now).turns now answers).1 := by
  have hbudget := budget_turnsUpTo now answers longestStretch (p.wind now)
  rw [budget_wind] at hbudget
  have hstopped : (turnsUpTo now answers longestStretch (p.wind now)).stopped = false := by
    cases hs : (turnsUpTo now answers longestStretch (p.wind now)).stopped with
    | false => rfl
    | true =>
        rw [hs, if_pos rfl] at hbudget
        omega
  rw [wake, if_pos hrun, turns_eq_of_not_stopped hstopped]

/-- No wake-up unmounts a poller. -/
theorem running_turns (p : Poller) : (p.turns now answers).1.running = p.running := by
  induction p using turns_induction with
  | stop p _ => rfl
  | go p q e r ht ih => rw [ih, running_turn ht]

end Poller

end Lookout.Polling
