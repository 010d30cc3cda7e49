/-! # Tickers
A **ticker** is due at the points of a grid. Taking a tick makes the next one due: one period later,
or, if the tick was taken more than `Ticker.tolerance` milliseconds late, at the first point of the
grid that still lies ahead. Times are in milliseconds. -/

namespace Lookout.Polling

/-- A **ticker**: a period and the time of the next tick. -/
structure Ticker where
  /-- The time between two points of the grid. -/
  period : Nat
  /-- A period takes time. -/
  period_pos : 0 < period
  /-- When the next tick is due. -/
  due : Nat
  deriving DecidableEq, Repr

namespace Ticker

/-- How late a tick may be taken without skipping the points of the grid in between. -/
def tolerance : Nat := 5

/-- Whether a tick is due. -/
def isDue (t : Ticker) (now : Nat) : Bool := t.due ≤ now

/-- Take the tick that is due. -/
def take (t : Ticker) (now : Nat) : Ticker :=
  { t with
    due := if tolerance < now - t.due then now + t.period - (now - t.due) % t.period
      else t.due + t.period }

/-- The next tick is due later than the one taken. -/
theorem due_lt_due_take {t : Ticker} {now : Nat} (h : t.isDue now = true) :
    t.due < (t.take now).due := by
  have hle : t.due ≤ now := by simpa [isDue] using h
  have hpos := t.period_pos
  have hmod := Nat.mod_lt (now - t.due) hpos
  simp only [take]
  split <;> omega

end Ticker

end Lookout.Polling
