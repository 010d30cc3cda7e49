import Lookout.Proofs.Polling.Exclusion

/-! # What a poll state tells
A poll state is published again and again: at the end of a fetch, and once more when the next one
starts. Its record and its error stay in it until another fetch ends. This file says what there is
to be read off such a state, in terms of the outcomes of all fetches so far.

* `State.after`: the state when so many fetches came to an end, and none is under way.
* `State.Tells`: a state that says what the outcomes up to its count say, in either phase.
* `Trace.tells`: every state that a poller publishes is one, whatever the schedule. -/

namespace Lookout.Polling

namespace State

variable {f : Nat → Outcome} {k : Nat}

/-- The state **after** so many outcomes, with no fetch under way. -/
def after (f : Nat → Outcome) : Nat → State
  | 0 => initial
  | k + 1 => (after f k).begin.finish (f k)

/-- No fetch is under way after an outcome. -/
@[simp] theorem phase_after (f : Nat → Outcome) (k : Nat) : (after f k).phase = .idle := by
  cases k with
  | zero => rfl
  | succ k => exact phase_finish _ _

/-- A state in which a fetch was started is a state that fetches. -/
theorem begin_after (f : Nat → Outcome) (k : Nat) :
    (after f k).begin = { after f k with phase := .fetching } := by
  rw [begin, phase_after]

/-- Every outcome is counted. -/
@[simp] theorem completed_after (f : Nat → Outcome) (k : Nat) : (after f k).completed = k := by
  induction k with
  | zero => rfl
  | succ k ih =>
      have hphase : (after f k).begin.phase = .fetching := by rw [begin_after]
      rw [after, completed_finish hphase, begin_after]
      exact congrArg (· + 1) ih

/-- A good outcome brings a record, and clears the error. -/
theorem after_succ_of_ok {r : Run} (h : f k = .ok r) :
    after f (k + 1) = ⟨.idle, some r, none, k + 1⟩ := by
  rw [after, begin_after, h, finish]
  simp only [completed_after]

/-- A failure keeps the record that is there, if any. -/
theorem after_succ_of_error {e : CallFailure} (h : f k = .error e) :
    after f (k + 1) = ⟨.idle, (after f k).lastGood, some e.message, k + 1⟩ := by
  rw [after, begin_after, h, finish]
  simp only [completed_after]

/-- After a good first outcome there is always a record. -/
theorem isSome_lastGood_after {r : Run} (h : f 0 = .ok r) (k : Nat) :
    (after f (k + 1)).lastGood.isSome = true := by
  induction k with
  | zero => rw [after_succ_of_ok h, Option.isSome_some]
  | succ k ih =>
      cases hk : f (k + 1) with
      | ok s => rw [after_succ_of_ok hk, Option.isSome_some]
      | error e =>
          rw [after_succ_of_error hk]
          exact ih

/-- A state **tells** of outcomes if it says what they say up to its count; whether a fetch is under
way makes no difference. -/
def Tells (f : Nat → Outcome) (s : State) : Prop :=
  s = { after f s.completed with phase := s.phase }

/-- The state after some outcomes tells of them. -/
theorem tells_after (f : Nat → Outcome) (k : Nat) : (after f k).Tells f := by
  rw [Tells, completed_after]

namespace Tells

variable {s : State}

/-- The record in a state that tells of outcomes. -/
theorem lastGood_eq (h : s.Tells f) : s.lastGood = (after f s.completed).lastGood :=
  (congrArg lastGood h :)

/-- The error in a state that tells of outcomes. -/
theorem lastError_eq (h : s.Tells f) : s.lastError = (after f s.completed).lastError :=
  (congrArg lastError h :)

/-- A fetch that starts changes nothing about what a state tells. -/
theorem begin (h : s.Tells f) : s.begin.Tells f := by
  cases hphase : s.phase with
  | idle =>
      have hbegin : s.begin = { s with phase := .fetching } := by rw [State.begin, hphase]
      rw [hbegin, Tells]
      simp only
      rw [← h.lastGood_eq, ← h.lastError_eq, completed_after]
  | fetching => rwa [begin_of_fetching hphase]

/-- A state that fetches and tells of outcomes is one after them in which a fetch was started. -/
theorem eq_begin (h : s.Tells f) (hphase : s.phase = .fetching) :
    s = (after f s.completed).begin := by
  rw [begin_after, ← hphase]
  exact h

/-- The next outcome is told of like the ones before. -/
theorem finish (h : s.Tells f) (hphase : s.phase = .fetching) :
    (s.finish (f s.completed)).Tells f := by
  have heq : s.finish (f s.completed) = after f (s.completed + 1) :=
    congrArg (·.finish (f s.completed)) (h.eq_begin hphase)
  rw [heq]
  exact tells_after f _

end Tells

end State

namespace Poller

variable {target : Target} {interval now : Nat} {answers : Nat → Option Outcome} {es : List Event}
  {p q : Poller} {f : Nat → Outcome}

/-- A trigger keeps what a poller tells. -/
theorem tells_trigger (h : p.state.Tells f) : p.trigger.state.Tells f := by
  rw [state_trigger]
  exact h.begin

/-- A turn keeps what a poller tells, if the platform answers with the outcomes told of. -/
theorem InStep.tells_turn (hp : InStep answers es p) (h : p.state.Tells f)
    (hf : ∀ i o, answers i = some o → f i = o) {e : Event}
    (hturn : p.turn now answers = some (q, e)) : q.state.Tells f := by
  rcases turn_cases hturn with ⟨n, -, rfl, -⟩ | ⟨-, t, -, rfl, -⟩ | ⟨-, -, o, ho, rfl, -⟩
  · exact tells_trigger (p := { p with requests := n }) h
  · exact tells_trigger (p := { p with ticker := some t }) h
  · obtain ⟨hphase, hanswer⟩ := hp.fetching_of_answered ho
    show (p.state.finish o).Tells f
    rw [← hf _ _ hanswer]
    exact h.finish hphase

/-- **Every state that a poller publishes tells of the outcomes** of its fetches, in their order. -/
theorem Trace.tells (h : Trace target interval now answers es p)
    (hf : ∀ i o, answers i = some o → f i = o) : p.published.Tells f := by
  rw [h.inStep.published_eq]
  induction h with
  | mount now => exact (State.tells_after f 0).begin
  | ask _ _ ih => exact ih hf
  | pass _ _ ih => exact ih hf
  | @answer now answers es p _ fetch o hnone ih =>
      refine ih fun i a hi => hf i a ?_
      have hne : i ≠ fetch := fun heq => by simp [heq, hnone] at hi
      simp only [if_neg hne]
      exact hi
  | wind _ _ ih =>
      rw [state_wind]
      exact ih hf
  | turn h _ hturn ih =>
      exact (h.inStep.wind _).tells_turn ((state_wind _ _).symm ▸ ih hf) hf hturn
  | stop _ _ ih => exact ih hf

/-- A trigger ends no fetch. -/
theorem completed_trigger (p : Poller) : p.trigger.state.completed = p.state.completed := by
  rw [state_trigger, State.completed_begin]

/-- A turn brings at most one more outcome. -/
theorem InStep.completed_turn (hp : InStep answers es p) {e : Event}
    (hturn : p.turn now answers = some (q, e)) :
    q.state.completed = p.state.completed ∨ q.state.completed = p.state.completed + 1 := by
  rcases turn_cases hturn with ⟨n, -, rfl, -⟩ | ⟨-, t, -, rfl, -⟩ | ⟨-, -, o, ho, rfl, -⟩
  · exact .inl (completed_trigger _)
  · exact .inl (completed_trigger _)
  · exact .inr (State.completed_finish (hp.fetching_of_answered ho).1 o)

end Poller

end Lookout.Polling
