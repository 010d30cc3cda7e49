import Lookout.Polling.Poller

/-! # Traces of a poller
A mounted poller may be asked for a refresh at any time, its clock moves on between its turns, and
the platform may answer a fetch at any moment, or never. This file says once what such a run can be.

* **`turn_cases`**: what one turn can be, with everything that brought it about.
* **`Trace`**: a run of a mounted poller. Every schedule of requests, ticks, clock movements and
  answers is one, cut off after any turn.
* **`Trace.wake`**: a poller that is woken makes its turns along a trace. -/

namespace Lookout.Polling.Poller

/-! ## One turn -/

/-- **What a turn can be**: a request is taken, or else a tick that is due, or else the answer to
the fetch under way. -/
theorem turn_cases {p q : Poller} {now : Nat} {answers : Nat → Option Outcome} {e : Event}
    (h : p.turn now answers = some (q, e)) :
    (∃ n, p.requests = n + 1 ∧ q = { p with requests := n }.trigger ∧ e = p.triggered .manual) ∨
      (p.requests = 0 ∧ ∃ t, p.dueTicker? now = some t ∧ q = { p with ticker := some t }.trigger ∧
        e = p.triggered .tick) ∨
      (p.requests = 0 ∧ p.dueTicker? now = none ∧ ∃ o, p.answered? answers = some o ∧
        q = p.finish o ∧ e = p.finished o) := by
  unfold turn at h
  split at h
  · next n hn =>
      obtain ⟨rfl, rfl⟩ := Prod.mk.inj (Option.some.inj h)
      exact .inl ⟨n, hn, rfl, rfl⟩
  · next hn =>
      split at h
      · next t ht =>
          obtain ⟨rfl, rfl⟩ := Prod.mk.inj (Option.some.inj h)
          exact .inr (.inl ⟨hn, t, ht, rfl, rfl⟩)
      · next ht =>
          obtain ⟨o, ho, hfin⟩ := Option.map_eq_some_iff.mp h
          obtain ⟨rfl, rfl⟩ := Prod.mk.inj hfin
          exact .inr (.inr ⟨hn, ht, o, ho, rfl, rfl⟩)

/-! ## What a trigger and waking up change -/

/-- After a trigger a fetch is under way, whether it was before or not. -/
@[simp] theorem state_trigger (p : Poller) : p.trigger.state = p.state.begin := by
  unfold trigger
  split
  · rfl
  · next hphase => exact (State.begin_of_fetching hphase).symm

/-- A trigger changes nothing about whose run it is. -/
theorem target_trigger (p : Poller) : p.trigger.target = p.target := by
  unfold trigger
  split <;> rfl

/-- Waking up leaves the state alone. -/
@[simp] theorem state_wind (p : Poller) (now : Nat) : (p.wind now).state = p.state := by
  unfold wind
  split <;> rfl

/-! ## The ticker -/

/-- A ticker that goes is not set going again. -/
theorem wind_of_isSome {p : Poller} (h : p.ticker.isSome = true) (now : Nat) : p.wind now = p := by
  unfold wind
  split
  · rfl
  · next hn =>
      rw [hn] at h
      cases h

/-- After a poller was awake its ticker goes. -/
theorem isSome_ticker_wind (p : Poller) (now : Nat) : (p.wind now).ticker.isSome = true := by
  unfold wind
  split
  · next t ht => rw [ht, Option.isSome_some]
  · rfl

/-- No turn stops the ticker. -/
theorem isSome_ticker_turn {p q : Poller} {now : Nat} {answers : Nat → Option Outcome} {e : Event}
    (hp : p.ticker.isSome = true) (h : p.turn now answers = some (q, e)) :
    q.ticker.isSome = true := by
  rcases turn_cases h with ⟨n, -, rfl, -⟩ | ⟨-, t, -, rfl, -⟩ | ⟨-, -, o, -, rfl, -⟩
  · rw [ticker_trigger]
    exact hp
  · rw [ticker_trigger]
    rfl
  · exact hp

/-! ## Traces -/

/-- A **trace** of the poller mounted for a run: when its clock shows `now` and the platform has
answered with `answers`, it has come to `p` and `es` was reported. The clock only moves on, and an
answer stays what it is; a platform may have an answer ready before the fetch starts. -/
inductive Trace (target : Target) (interval : Nat) :
    Nat → (Nat → Option Outcome) → List Event → Poller → Prop
  /-- The poller is mounted; its first fetch has started. -/
  | mount (now : Nat) :
      Trace target interval now (fun _ => none) [(mount target interval).mounted]
        (mount target interval)
  /-- Somebody asks for a refresh. -/
  | ask {now answers es p} (h : Trace target interval now answers es p) (hrun : p.running = true) :
      Trace target interval now answers es p.ask
  /-- Time passes. -/
  | pass {now answers es p} (h : Trace target interval now answers es p) (ms : Nat) :
      Trace target interval (now + ms) answers es p
  /-- The platform answers a fetch it has not answered. -/
  | answer {now answers es p} (h : Trace target interval now answers es p) (fetch : Nat)
      (o : Outcome) (hnone : answers fetch = none) :
      Trace target interval now (fun i => if i = fetch then some o else answers i) es p
  /-- The poller wakes up. -/
  | wind {now answers es p} (h : Trace target interval now answers es p) (hrun : p.running = true) :
      Trace target interval now answers es (p.wind now)
  /-- The poller wakes up and makes a turn. -/
  | turn {now answers es p q e} (h : Trace target interval now answers es p)
      (hrun : p.running = true) (hturn : (p.wind now).turn now answers = some (q, e)) :
      Trace target interval now answers (es ++ [e]) q
  /-- The poller is unmounted. -/
  | stop {now answers es p} (h : Trace target interval now answers es p) (hrun : p.running = true) :
      Trace target interval now answers (es ++ [.pollDeactivated p.target]) p.stop

/-- No turn unmounts a poller. -/
theorem running_turn {p q : Poller} {now : Nat} {answers : Nat → Option Outcome} {e : Event}
    (h : p.turn now answers = some (q, e)) : q.running = p.running := by
  rcases turn_cases h with ⟨n, -, rfl, -⟩ | ⟨-, t, -, rfl, -⟩ | ⟨-, -, o, -, rfl, -⟩
  · unfold trigger
    split <;> rfl
  · unfold trigger
    split <;> rfl
  · rfl

/-- Setting the ticker going does not unmount a poller. -/
theorem running_wind (p : Poller) (now : Nat) : (p.wind now).running = p.running := by
  unfold wind
  split <;> rfl

namespace Trace

variable {target : Target} {interval now : Nat} {answers : Nat → Option Outcome} {es : List Event}
  {p : Poller}

/-- A poller that is awake makes any number of turns along a trace. -/
theorem turnsUpTo (h : Trace target interval now answers es p) (hrun : p.running = true)
    (hticker : p.ticker.isSome = true) (n : Nat) :
    Trace target interval now answers (es ++ (Poller.turnsUpTo now answers n p).events)
      (Poller.turnsUpTo now answers n p).poller := by
  induction n generalizing p es with
  | zero =>
      rw [Poller.turnsUpTo, List.append_nil]
      exact h
  | succ n ih =>
      rw [Poller.turnsUpTo]
      cases ht : p.turn now answers with
      | none =>
          simp only [List.append_nil]
          exact h
      | some qe =>
          obtain ⟨q, e⟩ := qe
          -- The ticker goes already, so that waking up once more changes nothing.
          have hturn : (p.wind now).turn now answers = some (q, e) := by
            rw [wind_of_isSome hticker, ht]
          have hnext := ih (h.turn hrun hturn) ((running_turn ht).trans hrun)
            (isSome_ticker_turn hticker ht)
          rw [List.append_assoc] at hnext
          exact hnext

/-- **A poller that is woken makes its turns along a trace.** -/
theorem wake (h : Trace target interval now answers es p) :
    Trace target interval now answers (es ++ (p.wake now answers).events)
      (p.wake now answers).poller := by
  unfold Poller.wake
  split
  · next hrun =>
      exact (h.wind hrun).turnsUpTo ((running_wind p now).trans hrun) (isSome_ticker_wind p now) _
  · rw [List.append_nil]
    exact h

end Trace

end Lookout.Polling.Poller
