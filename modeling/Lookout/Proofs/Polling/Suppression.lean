import Lookout.Proofs.Polling.Exclusion

/-! # One wake-up, one fetch
A poller that wakes up may find any number of requests, any number of ticks that are due, and the
answer to its fetch. It takes them in this order, until nothing is left. This file shows what follows
for a wake-up as a whole: **it starts one fetch at most, and none while one is under way**, even if
that one is answered already.

* `turns_induction`: induction along a wake-up.
* `Attended`: what a wake-up makes of a poller, in one equation for its state.
* `Trace.wakeUp_spec`: the whole statement. -/

namespace Lookout.Polling

namespace State

/-- A state that begins a fetch is fetching. -/
@[simp] theorem phase_begin (s : State) : s.begin.phase = .fetching := by
  unfold begin
  split
  · rfl
  · assumption

/-- What becomes of a state in which a fetch is under way, or comes under way, when that is answered
like this by now. -/
def met (s : State) : Option Outcome → State
  | some o => s.begin.finish o
  | none => s.begin

/-- Beginning a fetch that is under way already does nothing. -/
@[simp] theorem met_begin (s : State) (answer : Option Outcome) :
    s.begin.met answer = s.met answer := by
  have hbegin : s.begin.begin = s.begin := begin_of_fetching s.phase_begin
  cases answer <;> simp only [met, hbegin]

end State

namespace Poller

variable {now : Nat} {answers : Nat → Option Outcome}

/-! ## Wake-ups -/

/-- **Induction along a wake-up**: what holds where no turn is left, and is passed from the poller
after a turn to the one before it, holds of all pollers. -/
@[elab_as_elim]
theorem turns_induction {motive : Poller → Poller × List Event → Prop}
    (stop : ∀ p, p.turn now answers = none → motive p (p, []))
    (go : ∀ p q e r, p.turn now answers = some (q, e) → motive q r → motive p (r.1, e :: r.2))
    (p : Poller) : motive p (p.turns now answers) := by
  cases ht : p.turn now answers with
  | none =>
      rw [turns_of_turn_eq_none ht]
      exact stop p ht
  | some qe =>
      obtain ⟨q, e⟩ := qe
      rw [turns_of_turn_eq_some ht]
      exact go p q e _ ht (turns_induction stop go q)
termination_by p.budget now
decreasing_by exact budget_turn ht

/-- A wake-up goes on until no turn is left. -/
theorem turn_turns (p : Poller) : (p.turns now answers).1.turn now answers = none := by
  induction p using turns_induction with
  | stop p ht => exact ht
  | go p q e r _ ih => exact ih

/-- A stretch that was not stopped is a whole wake-up. -/
theorem turns_eq_of_not_stopped {n : Nat} {p : Poller}
    (h : (turnsUpTo now answers n p).stopped = false) :
    p.turns now answers =
      ((turnsUpTo now answers n p).poller, (turnsUpTo now answers n p).events) := by
  induction n generalizing p with
  | zero => cases h
  | succ n ih =>
      cases ht : p.turn now answers with
      | none =>
          rw [turns_of_turn_eq_none ht, turnsUpTo, ht]
      | some qe =>
          obtain ⟨q, e⟩ := qe
          simp only [turnsUpTo, ht] at h ⊢
          rw [turns_of_turn_eq_some ht, ih h]

/-! ## Triggers -/

/-- A poller **is called** if a request waits or a tick is due. -/
def IsCalled (p : Poller) (now : Nat) : Prop := 0 < p.requests ∨ p.dueTicker? now ≠ none

/-- Whether an event reports what came of a request. -/
def isManual : Event → Bool
  | .pollFetchStarted _ .manual => true
  | .pollTriggerSuppressed _ .manual => true
  | _ => false

/-- A trigger starts a fetch iff none is under way. -/
theorem started_trigger (p : Poller) :
    p.trigger.started = p.started + if p.state.phase = .idle then 1 else 0 := by
  unfold trigger
  split
  · next hphase =>
      rw [if_pos hphase]
      rfl
  · next hphase =>
      rw [hphase]
      rfl

/-- A poller has no turn left once there is nothing to take. -/
theorem turn_eq_none_iff {p : Poller} :
    p.turn now answers = none ↔ ¬p.IsCalled now ∧ p.answered? answers = none := by
  unfold turn IsCalled
  split
  · next hn => simp [hn]
  · next hn =>
      split
      · next ht => simp [ht]
      · next ht => simp [hn, ht]

/-! ## A whole wake-up -/

instance (p : Poller) (now : Nat) : Decidable (p.IsCalled now) :=
  inferInstanceAs (Decidable (_ ∨ _))

/-- **Attended**: what a wake-up makes of a poller, and what it reports. -/
structure Attended (now : Nat) (answers : Nat → Option Outcome) (p : Poller)
    (r : Poller × List Event) : Prop where
  /-- Nothing is left to take. -/
  not_called : ¬r.1.IsCalled now
  /-- Every request was taken. -/
  manual_eq : r.2.countP isManual = p.requests
  /-- A fetch was started iff none was under way and the poller was called. -/
  started_eq : r.1.started =
    p.started + if p.state.phase = .idle ∧ p.IsCalled now then 1 else 0
  /-- The fetch that was under way, or was started, is met with its answer. -/
  state_eq : r.1.state = if p.state.phase = .fetching ∨ p.IsCalled now
    then p.state.met (answers p.state.completed) else p.state

/-- A poller that takes a trigger is attended if the poller after it is. -/
theorem Attended.trigger {p q : Poller} {r : Poller × List Event} {e : Event}
    (h : Attended now answers q r) (hcalled : p.IsCalled now) (hstate : q.state = p.state.begin)
    (hstarted : q.started = p.started + if p.state.phase = .idle then 1 else 0)
    (hmanual : p.requests = q.requests + if isManual e = true then 1 else 0) :
    Attended now answers p (r.1, e :: r.2) where
  not_called := h.not_called
  manual_eq := by
    rw [List.countP_cons, h.manual_eq, hmanual]
  started_eq := by
    -- From here on a fetch is under way, so that no other trigger starts one.
    have hphase : ¬(q.state.phase = .idle ∧ q.IsCalled now) := by
      rw [hstate, State.phase_begin]
      exact fun hidle => nomatch hidle.1
    have hr := h.started_eq
    rw [if_neg hphase, hstarted] at hr
    simpa [hcalled] using hr
  state_eq := by
    have hphase : q.state.phase = .fetching ∨ q.IsCalled now := by
      rw [hstate]
      exact .inl p.state.phase_begin
    have hr := h.state_eq
    rw [if_pos hphase, hstate, State.met_begin, State.completed_begin] at hr
    rw [if_pos (.inr hcalled)]
    exact hr

/-- A poller that takes its answer is attended if the poller after it is. -/
theorem Attended.finish {p : Poller} {r : Poller × List Event} {o : Outcome}
    (h : Attended now answers (p.finish o) r) (hcalled : ¬p.IsCalled now)
    (hphase : p.state.phase = .fetching) (ho : answers p.state.completed = some o) :
    Attended now answers p (r.1, p.finished o :: r.2) where
  not_called := h.not_called
  manual_eq := by
    have hno : isManual (p.finished o) = false := by cases o <;> rfl
    rw [List.countP_cons, h.manual_eq, hno]
    rfl
  started_eq := by
    have hr := h.started_eq
    have hstill : ¬(p.finish o).IsCalled now := hcalled
    rw [if_neg fun hc => hstill hc.2] at hr
    rw [if_neg fun hc => hcalled hc.2]
    exact hr
  state_eq := by
    have hstill : ¬((p.finish o).state.phase = .fetching ∨ (p.finish o).IsCalled now) := by
      rintro (hf | hc)
      · cases (State.phase_finish p.state o).symm.trans hf
      · exact hcalled hc
    have hr := h.state_eq
    rw [if_neg hstill] at hr
    rw [if_pos (.inl hphase), ho, State.met, State.begin_of_fetching hphase]
    exact hr

/-- **A poller that is in step is attended by its wake-up**, and stays in step. -/
theorem InStep.turns {p : Poller} {es : List Event} (h : InStep answers es p) (now : Nat) :
    Attended now answers p (p.turns now answers) ∧
      InStep answers (es ++ (p.turns now answers).2) (p.turns now answers).1 := by
  revert es
  refine turns_induction (motive := fun p r => ∀ {es}, InStep answers es p →
    Attended now answers p r ∧ InStep answers (es ++ r.2) r.1) ?_ ?_ p
  · intro p ht es h
    obtain ⟨hcalled, hnone⟩ := turn_eq_none_iff.mp ht
    refine ⟨⟨hcalled, ?_, ?_, ?_⟩, ?_⟩
    · have hzero : p.requests = 0 := Nat.eq_zero_of_not_pos fun hpos => hcalled (.inl hpos)
      rw [hzero]
      rfl
    · rw [if_neg fun hc => hcalled hc.2]
      rfl
    · by_cases hphase : p.state.phase = .fetching
      · rw [answered?, h.inFlight_eq, if_pos hphase] at hnone
        have hans : answers p.state.completed = none := hnone
        rw [if_pos (.inl hphase), hans, State.met, State.begin_of_fetching hphase]
      · rw [if_neg (not_or.mpr ⟨hphase, hcalled⟩)]
    · rw [List.append_nil]
      exact h
  · intro p q e r ht ih es h
    have hq := h.turn ht
    obtain ⟨hatt, hstep⟩ := ih hq
    refine ⟨?_, by simpa using hstep⟩
    rcases turn_cases ht with ⟨n, hn, rfl, rfl⟩ | ⟨hn, t, hdue, rfl, rfl⟩ |
      ⟨hn, hdue, o, ho, rfl, rfl⟩
    · refine hatt.trigger (.inl (hn ▸ Nat.succ_pos n)) (state_trigger _) (started_trigger _) ?_
      have hman : isManual (p.triggered .manual) = true := by
        unfold triggered
        split <;> rfl
      rw [requests_trigger, if_pos hman]
      exact hn
    · have hcalled : p.IsCalled now := .inr (by rw [hdue]; exact Option.some_ne_none t)
      refine hatt.trigger hcalled (state_trigger _) (started_trigger _) ?_
      have hman : ¬isManual (p.triggered .tick) = true := by
        unfold triggered
        split <;> exact Bool.false_ne_true
      rw [requests_trigger, if_neg hman]
      rfl
    · obtain ⟨hphase, hans⟩ := h.fetching_of_answered ho
      refine hatt.finish ?_ hphase hans
      rintro (hpos | hne)
      · rw [hn] at hpos
        cases hpos
      · exact hne hdue

/-! ## Setting the ticker going -/

@[simp] theorem requests_wind (p : Poller) (now : Nat) : (p.wind now).requests = p.requests := by
  unfold wind
  split <;> rfl

@[simp] theorem started_wind (p : Poller) (now : Nat) : (p.wind now).started = p.started := by
  unfold wind
  split <;> rfl

/-! ## The suppression law -/

/-- The fetch that a wake-up is about: the one under way, or else the one it starts. Either is the
one after those that came to an end. -/
theorem InStep.eq_completed {p : Poller} {es : List Event} (h : InStep answers es p) {k started : Nat}
    (hstarted : started = p.started + if p.state.phase = .idle ∧ p.IsCalled now then 1 else 0)
    (hk : p.inFlight = some k ∨ p.started ≤ k ∧ k < started) :
    (p.state.phase = .fetching ∨ p.IsCalled now) ∧ k = p.state.completed := by
  rcases hk with hflight | ⟨hle, hlt⟩
  · rw [h.inFlight_eq] at hflight
    split at hflight
    · next hphase => exact ⟨.inl hphase, (Option.some.inj hflight).symm⟩
    · cases hflight
  · have hcount := h.started_eq
    split at hstarted
    · next hidle =>
        rw [hidle.1, if_neg (by decide)] at hcount
        exact ⟨.inr hidle.2, by omega⟩
    · omega

/-- **One wake-up, one fetch.** Wherever a poller has come to, if it is woken at a fixed time and
with fixed answers, it makes its turns until none is left. It starts one fetch if none was under way
and a request waited or a tick was due, and none otherwise; no request and no due tick is left, and
every request was reported. If the fetch that was under way or was started has an answer, one fetch
more has come to an end and none is under way; if it has no answer, it stays under way. A stretch
that is not stopped is such a wake-up. -/
theorem Trace.wakeUp_spec {target : Target} {interval : Nat} {es : List Event} {p : Poller}
    (h : Trace target interval now answers es p) :
    ∃ q fs, (p.wind now).turns now answers = (q, fs) ∧ q.turn now answers = none ∧
      starts fs = (if p.state.phase = .idle ∧ (p.wind now).IsCalled now then 1 else 0) ∧
      q.started = p.started + starts fs ∧
      ¬q.IsCalled now ∧ fs.countP isManual = p.requests ∧
      (∀ k o, p.inFlight = some k ∨ p.started ≤ k ∧ k < q.started → answers k = some o →
        q.state.completed = p.state.completed + 1 ∧ q.state.phase = .idle) ∧
      (∀ k, p.inFlight = some k ∨ p.started ≤ k ∧ k < q.started → answers k = none →
        q.state.completed = p.state.completed ∧ q.state.phase = .fetching) ∧
      q.published = q.state ∧
      (p.running = true → (p.wake now answers).stopped = false →
        p.wake now answers = ⟨q, fs, false⟩) := by
  have hwind := h.inStep.wind now
  obtain ⟨hatt, hafter⟩ := hwind.turns now
  have hstarted := hatt.started_eq
  have hstate := hatt.state_eq
  have hinFlight : (p.wind now).inFlight = p.inFlight := by
    rw [hwind.inFlight_eq, h.inStep.inFlight_eq, state_wind]
  -- The fetch that the wake-up is about, said of the poller before its ticker goes.
  have hfetch : ∀ k, p.inFlight = some k ∨
      p.started ≤ k ∧ k < ((p.wind now).turns now answers).1.started →
        ((p.wind now).turns now answers).1.state = p.state.met (answers k) ∧
          k = p.state.completed := by
    intro k hk
    rw [← hinFlight, ← started_wind p now] at hk
    obtain ⟨hmet, rfl⟩ := hwind.eq_completed hstarted hk
    rw [if_pos hmet, state_wind] at hstate
    rw [state_wind]
    exact ⟨hstate, rfl⟩
  have hstarts : starts ((p.wind now).turns now answers).2 =
      if p.state.phase = .idle ∧ (p.wind now).IsCalled now then 1 else 0 := by
    have hcount := hafter.starts_eq
    rw [starts, List.countP_append, ← starts, ← starts, hwind.starts_eq, hstarted, state_wind]
      at hcount
    exact Nat.add_left_cancel hcount
  refine ⟨_, _, rfl, turn_turns _, hstarts, ?_, hatt.not_called, ?_, ?_, ?_, hafter.published_eq, ?_⟩
  · rw [hstarts, hstarted, started_wind, state_wind]
  · rw [hatt.manual_eq, requests_wind]
  · intro k o hk ho
    obtain ⟨hmet, -⟩ := hfetch k hk
    rw [hmet, ho, State.met, State.completed_finish p.state.phase_begin, State.completed_begin]
    exact ⟨rfl, State.phase_finish _ _⟩
  · intro k hk hnone
    obtain ⟨hmet, -⟩ := hfetch k hk
    rw [hmet, hnone, State.met]
    exact ⟨State.completed_begin _, State.phase_begin _⟩
  · intro hrun hstopped
    rw [Poller.wake, if_pos hrun] at hstopped ⊢
    rw [turns_eq_of_not_stopped hstopped, ← hstopped]

/-- A request comes after the answer to the fetch under way and before the poller has seen it: the
wake-up takes both and starts nothing. -/
theorem wakeUp_after_answer :
    ∃ answers es p q fs, Trace ⟨"t", "r"⟩ 1000 0 answers es p ∧ p.requests = 1 ∧
      answers 0 = some (.error (.unavailable "503")) ∧ p.inFlight = some 0 ∧
      (p.wind 0).turns 0 answers = (q, fs) ∧ starts fs = 0 ∧ fs.countP isManual = 1 ∧
      ¬q.IsCalled 0 ∧ q.state.completed = 1 ∧ q.state.phase = .idle := by
  have h := ((@Trace.mount ⟨"t", "r"⟩ 1000 0).answer 0 (.error (.unavailable "503")) rfl).ask rfl
  obtain ⟨q, fs, hturns, -, hstarts, -, hcalled, hmanual, hanswered, -⟩ := h.wakeUp_spec
  obtain ⟨hcompleted, hphase⟩ := hanswered 0 _ (.inl rfl) rfl
  exact ⟨_, _, _, q, fs, h, rfl, rfl, rfl, hturns, hstarts, hmanual, hcalled, hcompleted, hphase⟩

end Poller

end Lookout.Polling
