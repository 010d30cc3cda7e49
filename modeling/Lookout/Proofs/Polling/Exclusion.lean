import Lookout.Proofs.Polling.Trace

/-! # One fetch at a time
A poller remembers twice that a fetch is under way: in the phase of its state, which decides whether
a trigger starts one, and in the fetch that it waits for. Nothing but the order of its actions keeps
the two in step. This file shows that they never come apart, and what follows: **fetches do not
overlap, no answer is lost, and the completions are numbered without a gap.**

* `InStep`: phase, fetch, counters and reports fit together; kept by every move.
* `Trace.fetches_never_overlap`: the whole statement. -/

namespace Lookout.Polling

/-! ## What is reported about fetches -/

/-- The number that an event gives to the end of a fetch. -/
def completion? : Event → Option Nat
  | .pollFetchCompleted _ _ n => some n
  | .pollFetchFailed _ _ n => some n
  | _ => none

/-- Whether an event reports the start of a fetch: the first of a mounted poller, or a later one. -/
def isStart : Event → Bool
  | .pollActivated _ _ => true
  | .pollFetchStarted _ _ => true
  | _ => false

/-- The numbers given to the ends of fetches, in the order of the events. -/
def completions (es : List Event) : List Nat := es.filterMap completion?

/-- How many fetches started according to the events. -/
def starts (es : List Event) : Nat := es.countP isStart

/-- An event that ends no fetch leaves the numbers alone. -/
theorem completions_concat_of_none {e : Event} (h : completion? e = none) (es : List Event) :
    completions (es ++ [e]) = completions es := by
  rw [completions, List.filterMap_append, List.filterMap_cons, h]
  exact List.append_nil _

/-- An event that ends a fetch adds its number. -/
theorem completions_concat_of_some {e : Event} {n : Nat} (h : completion? e = some n)
    (es : List Event) : completions (es ++ [e]) = completions es ++ [n] := by
  rw [completions, List.filterMap_append, List.filterMap_cons, h]
  rfl

/-- An event counts if it reports a start. -/
theorem starts_concat (es : List Event) (e : Event) :
    starts (es ++ [e]) = starts es + if isStart e = true then 1 else 0 := by
  rw [starts, List.countP_append, List.countP_singleton]
  rfl

/-! ## The end of a fetch -/

/-- After an outcome nothing is under way, whatever was before. -/
@[simp] theorem State.phase_finish (s : State) (o : Outcome) : (s.finish o).phase = .idle := by
  unfold State.finish
  split
  · assumption
  · cases o <;> rfl

/-- An outcome of the fetch under way is counted. -/
theorem State.completed_finish {s : State} (h : s.phase = .fetching) (o : Outcome) :
    (s.finish o).completed = s.completed + 1 := by
  unfold State.finish
  rw [h]
  cases o <;> rfl

/-- A fetch that starts is not counted. -/
@[simp] theorem State.completed_begin (s : State) : s.begin.completed = s.completed := by
  unfold begin
  split <;> rfl

namespace Poller

/-! ## Phase and fetch -/

/-- **In step**: a fetch is under way exactly in the fetching phase, it is the newest one, and
counters, reports and publications agree with that. -/
structure InStep (answers : Nat → Option Outcome) (es : List Event) (p : Poller) : Prop where
  /-- The fetch waited for is the one after those that came to an end, if one is under way. -/
  inFlight_eq : p.inFlight = if p.state.phase = .fetching then some p.state.completed else none
  /-- All fetches came to an end, but for the one under way. -/
  started_eq : p.started = p.state.completed + if p.state.phase = .fetching then 1 else 0
  /-- Every fetch that came to an end was answered. -/
  answered : ∀ {k}, k < p.state.completed → answers k ≠ none
  /-- The state is always published. -/
  published_eq : p.published = p.state
  /-- The ends of fetches are numbered from one upwards. -/
  completions_eq : completions es = List.range' 1 p.state.completed
  /-- Every start of a fetch is reported. -/
  starts_eq : starts es = p.started

namespace InStep

variable {answers : Nat → Option Outcome} {es : List Event} {p : Poller}

/-- A poller in which only requests and ticker have changed is still in step. -/
theorem congr (h : InStep answers es p) {q : Poller} (hs : q.state = p.state)
    (hp : q.published = p.published) (hi : q.inFlight = p.inFlight) (hn : q.started = p.started) :
    InStep answers es q := by
  refine ⟨?_, ?_, ?_, ?_, ?_, ?_⟩
  · rw [hi, hs]
    exact h.inFlight_eq
  · rw [hn, hs]
    exact h.started_eq
  · rw [hs]
    exact h.answered
  · rw [hp, hs]
    exact h.published_eq
  · rw [hs]
    exact h.completions_eq
  · rw [hn]
    exact h.starts_eq

/-- An event that neither starts nor ends a fetch keeps the poller in step. -/
theorem report (h : InStep answers es p) {e : Event} (hc : completion? e = none)
    (hs : isStart e = false) : InStep answers (es ++ [e]) p := by
  refine { h with completions_eq := ?_, starts_eq := ?_ }
  · rw [completions_concat_of_none hc]
    exact h.completions_eq
  · rw [starts_concat, hs]
    exact h.starts_eq

/-- A trigger starts a fetch iff none is under way, and keeps the poller in step. -/
theorem trigger (h : InStep answers es p) (t : Trigger) :
    InStep answers (es ++ [p.triggered t]) p.trigger := by
  cases hphase : p.state.phase with
  | idle =>
      -- All fetches came to an end, so the next one has the number of those that did.
      have hstarted : p.started = p.state.completed := by
        rw [h.started_eq, hphase, if_neg (by decide), Nat.add_zero]
      have hbegin : p.state.begin = { p.state with phase := .fetching } := by
        rw [State.begin, hphase]
      simp only [Poller.trigger, triggered, hphase, hbegin]
      refine ⟨congrArg some hstarted, congrArg (· + 1) hstarted, h.answered, rfl, ?_, ?_⟩
      · rw [completions_concat_of_none rfl]
        exact h.completions_eq
      · rw [starts_concat]
        exact congrArg (· + 1) h.starts_eq
  | fetching =>
      simp only [Poller.trigger, triggered, hphase]
      exact h.report rfl rfl

/-- An answer that can be taken belongs to the fetch under way. -/
theorem fetching_of_answered (h : InStep answers es p) {o : Outcome}
    (ho : p.answered? answers = some o) :
    p.state.phase = .fetching ∧ answers p.state.completed = some o := by
  rw [answered?, h.inFlight_eq] at ho
  split at ho
  · next hphase => exact ⟨hphase, ho⟩
  · cases ho

/-- The event for an answer that can be taken has the number of the fetch it ends. -/
theorem completion?_finished (p : Poller) (o : Outcome) :
    completion? (p.finished o) = some (p.state.completed + 1) := by
  cases o <;> rfl

/-- Taking the answer ends the fetch under way, under the next number. -/
theorem finish (h : InStep answers es p) {o : Outcome} (ho : p.answered? answers = some o) :
    InStep answers (es ++ [p.finished o]) (p.finish o) := by
  obtain ⟨hphase, hans⟩ := h.fetching_of_answered ho
  have hidle : (p.finish o).state.phase ≠ .fetching := by
    show (p.state.finish o).phase ≠ .fetching
    rw [State.phase_finish]
    decide
  have hcount : (p.finish o).state.completed = p.state.completed + 1 :=
    State.completed_finish hphase o
  refine ⟨?_, ?_, ?_, rfl, ?_, ?_⟩
  · rw [if_neg hidle]
    rfl
  · rw [if_neg hidle, hcount, Nat.add_zero]
    show p.started = p.state.completed + 1
    rw [h.started_eq, if_pos hphase]
  · intro k hk
    rw [hcount] at hk
    -- The fetch that ends now was answered just now, the ones before it earlier.
    rcases Nat.lt_succ_iff_lt_or_eq.mp hk with hlt | rfl
    · exact h.answered hlt
    · rw [hans]
      exact Option.some_ne_none o
  · rw [completions_concat_of_some (completion?_finished p o), h.completions_eq, hcount,
      List.range'_concat, Nat.one_mul, Nat.add_comm 1]
  · rw [starts_concat, h.starts_eq]
    cases o <;> rfl

/-- No turn brings a poller out of step. -/
theorem turn (h : InStep answers es p) {q : Poller} {now : Nat} {e : Event}
    (ht : p.turn now answers = some (q, e)) : InStep answers (es ++ [e]) q := by
  rcases turn_cases ht with ⟨n, -, rfl, rfl⟩ | ⟨-, t, -, rfl, rfl⟩ | ⟨-, -, o, ho, rfl, rfl⟩
  · exact (h.congr (q := { p with requests := n }) rfl rfl rfl rfl).trigger .manual
  · exact (h.congr (q := { p with ticker := some t }) rfl rfl rfl rfl).trigger .tick
  · exact h.finish ho

/-- Waking up brings no poller out of step. -/
theorem wind (h : InStep answers es p) (now : Nat) : InStep answers es (p.wind now) := by
  unfold Poller.wind
  split
  · exact h
  · exact h.congr rfl rfl rfl rfl

end InStep

/-- **Pollers stay in step** along every trace. -/
theorem Trace.inStep {target : Target} {interval now : Nat} {answers : Nat → Option Outcome}
    {es : List Event} {p : Poller} (h : Trace target interval now answers es p) :
    InStep answers es p := by
  induction h with
  | mount now => exact ⟨rfl, rfl, fun hk => absurd hk (Nat.not_lt_zero _), rfl, rfl, rfl⟩
  | ask _ _ ih => exact ih.congr rfl rfl rfl rfl
  | pass _ _ ih => exact ih
  | answer _ fetch o _ ih =>
      refine { ih with answered := ?_ }
      intro k hk
      by_cases he : k = fetch
      · rw [if_pos he]
        exact Option.some_ne_none o
      · rw [if_neg he]
        exact ih.answered hk
  | wind _ _ ih => exact ih.wind _
  | turn _ _ hturn ih => exact (ih.wind _).turn hturn
  | stop _ _ ih => exact (ih.report rfl rfl).congr rfl rfl rfl rfl

/-- **Fetches never overlap**, whatever the schedule and the answers. At most one of the fetches
that started is unanswered; the poller waits for a fetch exactly in the fetching phase, so no answer
it could take is refused; it started as many fetches as came to an end, and one more while fetching;
its state is published; and the ends of fetches are numbered from one upwards, each with the count
that is published right after it. -/
theorem Trace.fetches_never_overlap {target : Target} {interval now : Nat}
    {answers : Nat → Option Outcome} {es : List Event} {p : Poller}
    (h : Trace target interval now answers es p) :
    (∀ i k, i < p.started → k < p.started → answers i = none → answers k = none → i = k) ∧
      (p.inFlight.isSome = true ↔ p.state.phase = .fetching) ∧
      (∀ o, p.answered? answers = some o → p.state.canFinish = true) ∧
      p.started = p.state.completed + (if p.state.phase = .fetching then 1 else 0) ∧
      starts es = p.started ∧
      p.published = p.state ∧
      completions es = List.range' 1 p.state.completed ∧
      ∀ q e n, (p.wind now).turn now answers = some (q, e) → completion? e = some n →
        q.published.completed = n := by
  have hp := h.inStep
  -- A fetch without an answer is not among those that came to an end, so it is the last one.
  have hlast : ∀ i, i < p.started → answers i = none → i = p.state.completed := by
    intro i hi hnone
    have hge : p.state.completed ≤ i := Nat.le_of_not_lt fun hlt => hp.answered hlt hnone
    have hle : p.started ≤ p.state.completed + 1 := by
      rw [hp.started_eq]
      split <;> omega
    omega
  refine ⟨?_, ?_, ?_, hp.started_eq, hp.starts_eq, hp.published_eq, hp.completions_eq, ?_⟩
  · intro i k hi hk hinone hknone
    rw [hlast i hi hinone, hlast k hk hknone]
  · rw [hp.inFlight_eq]
    by_cases hphase : p.state.phase = .fetching
    · simp [hphase]
    · simp [hphase]
  · intro o ho
    exact decide_eq_true (hp.fetching_of_answered ho).1
  · intro q e n hturn hn
    have hq := (hp.wind now).turn hturn
    -- The reports before the turn number the other ends, so that the last number is their count.
    have hcount := hq.completions_eq
    rw [completions_concat_of_some hn, (hp.wind now).completions_eq] at hcount
    have hsucc : (p.wind now).state.completed + 1 = q.state.completed := by
      simpa using congrArg List.length hcount
    rw [← hsucc, List.range'_concat, List.append_cancel_left_eq] at hcount
    have hn : n = 1 + 1 * (p.wind now).state.completed := List.head_eq_of_cons_eq hcount
    rw [hq.published_eq]
    omega

/-- The first fetch fails after a request during it started nothing, a later request starts the
second one, and that one fails as well: the ends are numbered one and two. -/
theorem fetches_of_two_failures :
    ∃ answers es p q e, Trace ⟨"t", "r"⟩ 1000 0 answers es p ∧
      .pollTriggerSuppressed ⟨"t", "r"⟩ .manual ∈ es ∧
      p.state.phase = .fetching ∧ p.started = p.state.completed + 1 ∧ completions es = [1] ∧
      (p.wind 0).turn 0 answers = some (q, e) ∧ completion? e = some 2 ∧
      q.published.completed = 2 := by
  have refused := ((@Trace.mount ⟨"t", "r"⟩ 1000 0).ask rfl).turn rfl rfl
  have failed := (refused.answer 0 (.error (.unavailable "503")) rfl).turn rfl rfl
  have h := ((failed.ask rfl).turn rfl rfl).answer 1 (.error (.runNotFound ⟨"t", "r"⟩)) rfl
  obtain ⟨-, -, -, hstarted, -, -, hends, hnext⟩ := h.fetches_never_overlap
  exact ⟨_, _, _, _, _, h, by decide, rfl, hstarted, hends, rfl, rfl, hnext _ _ _ rfl rfl⟩

end Poller

end Lookout.Polling
