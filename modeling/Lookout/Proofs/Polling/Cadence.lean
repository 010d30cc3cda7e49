import Lookout.Proofs.Polling.Grid

/-! # The beat of a poller
Nobody asks a poller for a refresh, and the platform takes the same time over every answer. The
poller then fetches to a beat: **every fetch starts at the first tick after the answer to the one
before**. A tick that falls on the very moment of the answer is taken before it and lost, like all
ticks during the fetch, and none of them is made up for. If a tick comes every `I` milliseconds and
an answer takes `L`, a fetch starts every `I * (L / I + 1)` milliseconds.

* `beat`: when the fetches start.
* `Steady`: a run in which nobody asks and no deadline is missed.
* `InBeat`: what holds whenever the poller of such a run has fallen asleep; kept by every wake-up.
* `fetches_to_a_beat`: the whole statement. -/

namespace Lookout.Polling

namespace Poller

/-! ## Steady runs -/

/-- A **course** of a poller: how it got on up to a time. -/
structure Course where
  /-- The time. -/
  now : Nat
  /-- When the fetches of the poller started, in their order. -/
  begun : List Nat
  /-- The poller. -/
  poller : Poller

namespace Course

variable (delay : Nat) (outcome : Nat → Outcome) (c : Course)

/-- The answers of a platform that takes `delay` milliseconds over each. A fetch that has not started
can start now. -/
def answers (fetch : Nat) : Option Outcome :=
  if c.begun.getD fetch c.now + delay ≤ c.now then some (outcome fetch) else none

/-- The times for which something is set: the next tick, and the answers. -/
def deadlines : List Nat :=
  (c.poller.ticker.map Ticker.due).toList ++ c.begun.map (· + delay)

/-- Let the poller wake up. Fetches that it starts start now. -/
def settle : Course :=
  let q := (c.poller.wake c.now (c.answers delay outcome)).poller
  ⟨c.now, c.begun ++ List.replicate (q.started - c.begun.length) c.now, q⟩

/-- Let some time pass. -/
def pass (ms : Nat) : Course := { c with now := c.now + ms }

end Course

variable (target : Target) (interval delay : Nat) (outcome : Nat → Outcome) (first : Nat)

/-- A **steady run**: the poller wakes up first at `first`; nobody asks it for a refresh; the
platform takes `delay` milliseconds over every answer; and the clock stops at every deadline, where
the poller wakes up. It may stop at other times as well. -/
inductive Steady : Course → Prop
  /-- The poller was mounted and wakes up. -/
  | first : Steady (Course.settle delay outcome ⟨first, [], mount target interval⟩)
  /-- Time passes, up to the next deadline at most, and the poller wakes up. -/
  | next {c : Course} (h : Steady c) (ms : Nat)
      (hstop : ∀ t ∈ c.deadlines delay, c.now < t → c.now + ms ≤ t) :
      Steady ((c.pass ms).settle delay outcome)

/-- The first tick after a time. The ticks of a poller that wakes up first at `first` begin after
the interval and come every interval then. -/
def nextTick (time : Nat) : Nat :=
  Ticker.dueAfter (first + max interval minInterval) (max interval minInterval) time

/-- When the fetches of a steady run start: the first one at once, every other one at the first tick
after the answer to the one before. -/
def beat : Nat → Nat
  | 0 => first
  | j + 1 => nextTick interval first (beat j + delay)

/-- **Unasked**: a mounted poller of which nobody wants anything. -/
structure Unasked (c : Course) : Prop where
  /-- Nothing is out of step. -/
  inStep : ∃ es, InStep (c.answers delay outcome) es c.poller
  /-- The poller is mounted. -/
  running : c.poller.running = true
  /-- No request waits. -/
  requests_eq : c.poller.requests = 0

/-- **In beat**: the newest fetch of a poller is the `n`-th one, it and those before it started when
they should, and it is under way up to its answer. -/
structure InBeat (n : Nat) (c : Course) : Prop extends Unasked delay outcome c where
  /-- The ticker shows the next tick. -/
  ticker_eq : ∃ t, c.poller.ticker = some t ∧ t.period = max interval minInterval ∧
    t.due = nextTick interval first c.now
  /-- These fetches were started. -/
  started_eq : c.poller.started = n + 1
  /-- They started at the beat. -/
  begun_eq : c.begun = (List.range (n + 1)).map (beat interval delay first)
  /-- The newest fetch has started. -/
  beat_le : beat interval delay first n ≤ c.now
  /-- The next one has not. -/
  lt_beat : c.now < beat interval delay first (n + 1)
  /-- The newest fetch is under way up to its answer. -/
  fetching_iff : c.poller.state.phase = .fetching ↔ c.now < beat interval delay first n + delay

variable {target interval delay outcome first} {c : Course} {before : Nat}

/-! ## From one wake-up to the next -/

/-- An interval that was raised to the shortest one takes time. -/
theorem max_minInterval_pos (interval : Nat) : 0 < max interval minInterval :=
  Nat.lt_of_lt_of_le (by decide) (Nat.le_max_right _ _)

/-- There is a tick after every time. -/
theorem lt_nextTick (time : Nat) : time < nextTick interval first time :=
  Ticker.lt_dueAfter (max_minInterval_pos interval) time

namespace Course

/-- Fetches are entered at the end. -/
theorem begun_settle (c : Course) : (c.settle delay outcome).begun = c.begun ++
    List.replicate ((c.settle delay outcome).poller.started - c.begun.length) c.now :=
  rfl

/-- What starts now starts now. -/
theorem getD_append_replicate (begun : List Nat) (count now fetch : Nat) :
    (begun ++ List.replicate count now).getD fetch now = begun.getD fetch now := by
  simp only [List.getD_eq_getElem?_getD, List.getElem?_append, List.getElem?_replicate]
  split
  · rfl
  · next hge =>
      rw [List.getElem?_eq_none (Nat.le_of_not_lt hge)]
      split <;> rfl

/-- The platform gives no other answers after a wake-up than before it. -/
theorem answers_settle (c : Course) :
    (c.settle delay outcome).answers delay outcome = c.answers delay outcome := by
  funext fetch
  simp only [answers, settle, getD_append_replicate]

/-- An answer that was given stays given. -/
theorem answers_pass {ms fetch : Nat} (h : c.answers delay outcome fetch ≠ none) :
    (c.pass ms).answers delay outcome fetch ≠ none := by
  simp only [answers, pass, List.getD_eq_getElem?_getD, ne_eq, ite_eq_right_iff, reduceCtorEq,
    imp_false, Decidable.not_not] at h ⊢
  -- A fetch that has not started counts as started at the time, which is what has moved on.
  cases hb : c.begun[fetch]? with
  | none =>
      simp only [hb, Option.getD_none] at h ⊢
      omega
  | some s =>
      simp only [hb, Option.getD_some] at h ⊢
      omega

end Course

/-- **Ready**: a poller that nobody asked is about to wake up. Since the time `before` its next tick
has been the same one, which is due now at the earliest. -/
structure Ready (interval delay : Nat) (outcome : Nat → Outcome) (first before : Nat)
    (c : Course) : Prop extends Unasked delay outcome c where
  /-- The ticker shows the next tick. -/
  ticker_eq : ∃ t, (c.poller.wind c.now).ticker = some t ∧
    t.period = max interval minInterval ∧ t.due = nextTick interval first before
  /-- Time has passed. -/
  before_le : before ≤ c.now
  /-- No tick was missed. -/
  le_due : c.now ≤ nextTick interval first before

namespace Ready

/-- The poller is called iff its tick is due now. -/
theorem isCalled_iff (h : Ready interval delay outcome first before c) :
    (c.poller.wind c.now).IsCalled c.now ↔ c.now = nextTick interval first before := by
  obtain ⟨t, ht, hperiod, hdue⟩ := h.ticker_eq
  have hle := h.le_due
  rw [IsCalled, requests_wind, h.requests_eq, dueTicker?_of_ticker ht, ← hdue]
  rw [← hdue] at hle
  simp [Ticker.isDue]
  omega

/-- A poller that is ready has few turns left. -/
theorem poller_settle (h : Ready interval delay outcome first before c) :
    (c.settle delay outcome).poller =
      ((c.poller.wind c.now).turns c.now (c.answers delay outcome)).1 := by
  obtain ⟨t, ht, hperiod, hdue⟩ := h.ticker_eq
  have hle := h.le_due
  rw [← hdue] at hle
  have houtstanding := (c.poller.wind c.now).outstanding_le
  refine wake_of_budget_lt h.running ?_
  rw [← budget_wind, budget, ticksLeft, ht, requests_wind, h.requests_eq]
  simp only [longestStretch]
  omega

/-- The wake-up attends to the poller. -/
theorem attended (h : Ready interval delay outcome first before c) :
    Attended c.now (c.answers delay outcome) (c.poller.wind c.now)
      ((c.poller.wind c.now).turns c.now (c.answers delay outcome)) := by
  obtain ⟨es, hes⟩ := h.inStep
  exact ((hes.wind c.now).turns c.now).1

/-- It brings nothing out of step. -/
theorem inStep_settle (h : Ready interval delay outcome first before c) :
    ∃ es, InStep ((c.settle delay outcome).answers delay outcome) es
      (c.settle delay outcome).poller := by
  obtain ⟨es, hes⟩ := h.inStep
  rw [Course.answers_settle, h.poller_settle]
  exact ⟨_, ((hes.wind c.now).turns c.now).2⟩

/-- It starts a fetch iff none is under way and the tick is due. -/
theorem started_settle (h : Ready interval delay outcome first before c) :
    (c.settle delay outcome).poller.started = c.poller.started +
      if c.poller.state.phase = .idle ∧ c.now = nextTick interval first before then 1 else 0 := by
  have hatt := h.attended.started_eq
  simp only [state_wind, started_wind, h.isCalled_iff] at hatt
  rw [h.poller_settle, hatt]

/-- After it a fetch is under way iff one was before it or the tick was due, and that one is not
answered yet. -/
theorem fetching_settle_iff (h : Ready interval delay outcome first before c) :
    (c.settle delay outcome).poller.state.phase = .fetching ↔
      (c.poller.state.phase = .fetching ∨ c.now = nextTick interval first before) ∧
      c.now < c.begun.getD c.poller.state.completed c.now + delay := by
  have hatt := h.attended.state_eq
  simp only [state_wind, h.isCalled_iff] at hatt
  rw [h.poller_settle, hatt]
  split
  · next hmet =>
      rw [Course.answers]
      split
      · next hle => simp only [State.met, State.phase_finish, Nat.not_lt_of_le hle, and_false,
          reduceCtorEq]
      · next hlt => simpa [State.met, hmet] using hlt
  · next hno =>
      rw [not_or] at hno
      simp [hno]

/-- **A wake-up starts a fetch at the beat.** -/
theorem inBeat_settle {n : Nat} (h : Ready interval delay outcome first before c)
    (hstarted : (c.settle delay outcome).poller.started = n + 1)
    (hbegun : (c.settle delay outcome).begun = (List.range (n + 1)).map (beat interval delay first))
    (hle : beat interval delay first n ≤ c.now)
    (hlt : c.now < beat interval delay first (n + 1))
    (hfetching : (c.settle delay outcome).poller.state.phase = .fetching ↔
      c.now < beat interval delay first n + delay) :
    InBeat interval delay outcome first n (c.settle delay outcome) where
  inStep := h.inStep_settle
  running := by
    rw [h.poller_settle, running_turns, running_wind]
    exact h.running
  requests_eq := by
    rw [h.poller_settle]
    exact Nat.eq_zero_of_not_pos fun hpos => h.attended.not_called (.inl hpos)
  ticker_eq := by
    obtain ⟨t, ht, hperiod, hdue⟩ := h.ticker_eq
    have hgrid : t.due = Ticker.dueAfter (first + max interval minInterval) t.period before := by
      rw [hperiod]
      exact hdue
    rw [h.poller_settle]
    exact ⟨_, ticker_turns_of_grid ht hgrid h.before_le (hdue ▸ h.le_due), hperiod,
      congrArg (Ticker.dueAfter _ · c.now) hperiod⟩
  started_eq := hstarted
  begun_eq := hbegun
  beat_le := hle
  lt_beat := hlt
  fetching_iff := hfetching

end Ready

/-- The poller is in beat from its first wake-up on. -/
theorem inBeat_first (target : Target) (interval delay : Nat) (outcome : Nat → Outcome)
    (first : Nat) : InBeat interval delay outcome first 0
      (Course.settle delay outcome ⟨first, [], mount target interval⟩) := by
  have hdue : nextTick interval first first = first + max interval minInterval :=
    if_pos (Nat.lt_add_of_pos_right (mount target interval).interval_pos)
  have h : Ready interval delay outcome first first ⟨first, [], mount target interval⟩ :=
    { inStep := ⟨[(mount target interval).mounted],
        rfl, rfl, fun hk => absurd hk (Nat.not_lt_zero _), rfl, rfl, rfl⟩
      running := rfl
      requests_eq := rfl
      ticker_eq := ⟨_, rfl, rfl, hdue.symm⟩
      before_le := Nat.le_refl _
      le_due := Nat.le_of_lt (lt_nextTick first) }
  refine h.inBeat_settle h.started_settle ?_ (Nat.le_refl _) ?_ ?_
  · rw [Course.begun_settle, h.started_settle]
    rfl
  · exact Nat.lt_of_le_of_lt (Nat.le_add_right first delay) (lt_nextTick _)
  · rw [h.fetching_settle_iff]
    exact and_iff_right (.inl rfl)

namespace InBeat

variable {n : Nat}

/-- The clock stops at the next tick, so that the poller is ready there. -/
theorem ready_pass (h : InBeat interval delay outcome first n c) {ms : Nat}
    (hstop : ∀ t ∈ c.deadlines delay, c.now < t → c.now + ms ≤ t) :
    Ready interval delay outcome first c.now (c.pass ms) := by
  obtain ⟨es, hes⟩ := h.inStep
  obtain ⟨t, ht, hperiod, hdue⟩ := h.ticker_eq
  have hmem : t.due ∈ c.deadlines delay := by simp [Course.deadlines, ht]
  have hlt : c.now < nextTick interval first c.now := lt_nextTick _
  exact
    { inStep := ⟨es, { hes with answered := fun hk => Course.answers_pass (hes.answered hk) }⟩
      running := h.running
      requests_eq := h.requests_eq
      ticker_eq := by
        refine ⟨t, ?_, hperiod, hdue⟩
        show (c.poller.wind (c.now + ms)).ticker = some t
        rw [wind_of_isSome (by rw [ht]; rfl), ht]
      before_le := Nat.le_add_right _ _
      le_due := by
        rw [← hdue] at hlt ⊢
        exact hstop _ hmem hlt }

/-- While no fetch is under way, the next tick starts one. -/
theorem nextTick_eq_beat (h : InBeat interval delay outcome first n c)
    (hidle : c.poller.state.phase = .idle) :
    nextTick interval first c.now = beat interval delay first (n + 1) := by
  have hover : ¬c.now < beat interval delay first n + delay := by
    rw [← h.fetching_iff, hidle]
    decide
  exact Ticker.dueAfter_eq (Nat.le_of_not_lt hover) h.lt_beat

/-- Fetches are numbered from zero, and all but the one under way came to an end. -/
theorem completed_eq (h : InBeat interval delay outcome first n c) :
    n + 1 = c.poller.state.completed + if c.poller.state.phase = .fetching then 1 else 0 := by
  obtain ⟨es, hes⟩ := h.inStep
  rw [← h.started_eq]
  exact hes.started_eq

theorem length_begun (h : InBeat interval delay outcome first n c) : c.begun.length = n + 1 := by
  rw [h.begun_eq, List.length_map, List.length_range]

/-- The fetches that a wake-up starts are entered with its time. -/
theorem begun_settle_pass (h : InBeat interval delay outcome first n c) {ms : Nat} (count : Nat)
    (hstarted : ((c.pass ms).settle delay outcome).poller.started = n + 1 + count) :
    ((c.pass ms).settle delay outcome).begun =
      (List.range (n + 1)).map (beat interval delay first)
        ++ List.replicate count (c.now + ms) := by
  have hcount : n + 1 + count - (c.pass ms).begun.length = count := by
    rw [Course.pass, h.length_begun, Nat.add_sub_cancel_left]
  rw [Course.begun_settle, hstarted, hcount, ← h.begun_eq]
  rfl

/-- The ticks during a fetch start nothing, and the clock stops at its answer. -/
theorem next_of_fetching (h : InBeat interval delay outcome first n c) {ms : Nat}
    (hstop : ∀ t ∈ c.deadlines delay, c.now < t → c.now + ms ≤ t)
    (hphase : c.poller.state.phase = .fetching) :
    InBeat interval delay outcome first n ((c.pass ms).settle delay outcome) := by
  have hready := h.ready_pass hstop
  have hcompleted := h.completed_eq
  rw [if_pos hphase, Nat.add_right_cancel_iff] at hcompleted
  have hstarted : ((c.pass ms).settle delay outcome).poller.started = n + 1 := by
    rw [hready.started_settle, if_neg fun hidle => Phase.noConfusion (hphase.symm.trans hidle.1)]
    exact h.started_eq
  have hbegun : c.begun[n]? = some (beat interval delay first n) := by
    rw [h.begun_eq, List.getElem?_map, List.getElem?_range (Nat.lt_succ_self n)]
    rfl
  have hanswer : beat interval delay first n + delay ∈ c.deadlines delay :=
    List.mem_append_right _ (List.mem_map_of_mem (List.mem_of_getElem? hbegun))
  have hunder := h.fetching_iff.mp hphase
  refine hready.inBeat_settle hstarted ?_ (Nat.le_add_right_of_le h.beat_le) ?_ ?_
  · rw [h.begun_settle_pass 0 hstarted, List.replicate_zero, List.append_nil]
  · exact Nat.lt_of_le_of_lt (hstop _ hanswer hunder) (lt_nextTick _)
  · rw [hready.fetching_settle_iff]
    show (c.poller.state.phase = .fetching ∨ _) ∧
      c.now + ms < c.begun.getD c.poller.state.completed (c.now + ms) + delay ↔ _
    rw [← hcompleted, List.getD_eq_getElem?_getD, hbegun]
    exact and_iff_right (.inl hphase)

/-- Between an answer and the next tick nothing happens. -/
theorem next_of_lt (h : InBeat interval delay outcome first n c) {ms : Nat}
    (hstop : ∀ t ∈ c.deadlines delay, c.now < t → c.now + ms ≤ t)
    (hphase : c.poller.state.phase = .idle) (hlt : c.now + ms < beat interval delay first (n + 1)) :
    InBeat interval delay outcome first n ((c.pass ms).settle delay outcome) := by
  have hready := h.ready_pass hstop
  have hno : ¬(c.pass ms).now = nextTick interval first c.now := by
    rw [h.nextTick_eq_beat hphase]
    exact Nat.ne_of_lt hlt
  have hstarted : ((c.pass ms).settle delay outcome).poller.started = n + 1 := by
    rw [hready.started_settle, if_neg fun hi => hno hi.2]
    exact h.started_eq
  have hover : ¬c.now < beat interval delay first n + delay := by
    rw [← h.fetching_iff, hphase]
    decide
  refine hready.inBeat_settle hstarted ?_ (Nat.le_add_right_of_le h.beat_le) hlt ?_
  · rw [h.begun_settle_pass 0 hstarted, List.replicate_zero, List.append_nil]
  · rw [hready.fetching_settle_iff]
    refine iff_of_false ?_ fun hlt => hover (Nat.lt_of_le_of_lt (Nat.le_add_right _ ms) hlt)
    rintro ⟨hf | hdue, -⟩
    · cases hphase.symm.trans hf
    · exact hno hdue

/-- The tick after an answer starts the next fetch. -/
theorem next_of_eq (h : InBeat interval delay outcome first n c) {ms : Nat}
    (hstop : ∀ t ∈ c.deadlines delay, c.now < t → c.now + ms ≤ t)
    (hphase : c.poller.state.phase = .idle) (heq : c.now + ms = beat interval delay first (n + 1)) :
    InBeat interval delay outcome first (n + 1) ((c.pass ms).settle delay outcome) := by
  have hready := h.ready_pass hstop
  have hdue : (c.pass ms).now = nextTick interval first c.now := by
    rw [h.nextTick_eq_beat hphase]
    exact heq
  have hcompleted : n + 1 = c.poller.state.completed := by
    have hcount := h.completed_eq
    rwa [hphase, if_neg (by decide)] at hcount
  have hstarted : ((c.pass ms).settle delay outcome).poller.started = n + 1 + 1 := by
    rw [hready.started_settle, if_pos ⟨hphase, hdue⟩]
    exact congrArg (· + 1) h.started_eq
  refine hready.inBeat_settle hstarted ?_ (Nat.le_of_eq heq.symm) ?_ ?_
  · rw [h.begun_settle_pass 1 hstarted, heq, List.range_succ (n := n + 1), List.map_append]
    rfl
  · show c.now + ms < _
    rw [heq]
    exact Nat.lt_of_le_of_lt (Nat.le_add_right _ delay) (lt_nextTick _)
  · rw [hready.fetching_settle_iff]
    show (_ ∨ (c.pass ms).now = _) ∧
      c.now + ms < c.begun.getD c.poller.state.completed (c.now + ms) + delay ↔ _
    rw [← hcompleted, List.getD_eq_getElem?_getD,
      List.getElem?_eq_none (Nat.le_of_eq h.length_begun), ← heq]
    exact and_iff_right (.inr hdue)

/-- **The poller stays in beat** from one wake-up to the next. -/
theorem next (h : InBeat interval delay outcome first n c) {ms : Nat}
    (hstop : ∀ t ∈ c.deadlines delay, c.now < t → c.now + ms ≤ t) :
    ∃ m, InBeat interval delay outcome first m ((c.pass ms).settle delay outcome) := by
  cases hphase : c.poller.state.phase with
  | fetching => exact ⟨n, h.next_of_fetching hstop hphase⟩
  | idle =>
      have hle : c.now + ms ≤ beat interval delay first (n + 1) := by
        rw [← h.nextTick_eq_beat hphase]
        exact (h.ready_pass hstop).le_due
      rcases Nat.lt_or_eq_of_le hle with hlt | heq
      · exact ⟨n, h.next_of_lt hstop hphase hlt⟩
      · exact ⟨n + 1, h.next_of_eq hstop hphase heq⟩

end InBeat

/-! ## The beat -/

namespace Steady

/-- Along a steady run the poller is in beat. -/
theorem inBeat (h : Steady target interval delay outcome first c) :
    ∃ n, InBeat interval delay outcome first n c := by
  induction h with
  | first => exact ⟨0, inBeat_first target interval delay outcome first⟩
  | next _ ms hstop ih =>
      obtain ⟨n, hn⟩ := ih
      exact hn.next hstop

/-- A steady run gets to every time, since a millisecond passes no deadline. -/
theorem exists_now_eq (target : Target) (interval delay : Nat) (outcome : Nat → Outcome)
    (first passed : Nat) :
    ∃ c, Steady target interval delay outcome first c ∧ c.now = first + passed := by
  induction passed with
  | zero => exact ⟨_, .first, rfl⟩
  | succ passed ih =>
      obtain ⟨c, hc, hnow⟩ := ih
      exact ⟨_, hc.next 1 fun t _ hlt => hlt, congrArg (· + 1) hnow⟩

end Steady

/-- Fetches start one after the other. -/
theorem beat_le_beat {i j : Nat} (h : i ≤ j) :
    beat interval delay first i ≤ beat interval delay first j := by
  induction h with
  | refl => exact Nat.le_refl _
  | step _ ih =>
      exact Nat.le_trans ih (Nat.le_trans (Nat.le_add_right _ delay) (Nat.le_of_lt (lt_nextTick _)))

/-- The fetches that started by now are those whose time has come. -/
theorem InBeat.begun_iff {n : Nat} (h : InBeat interval delay outcome first n c) (j s : Nat) :
    c.begun[j]? = some s ↔ s = beat interval delay first j ∧ s ≤ c.now := by
  have hcome : j < n + 1 ↔ beat interval delay first j ≤ c.now := by
    constructor
    · intro hj
      exact Nat.le_trans (beat_le_beat (Nat.le_of_lt_succ hj)) h.beat_le
    · intro hle
      refine Nat.lt_of_not_le fun hge => ?_
      exact Nat.lt_irrefl _ (Nat.lt_of_lt_of_le h.lt_beat (Nat.le_trans (beat_le_beat hge) hle))
  rw [h.begun_eq, List.getElem?_map, Option.map_eq_some_iff]
  constructor
  · rintro ⟨i, hi, rfl⟩
    obtain ⟨hlt, rfl⟩ := List.getElem?_eq_some_iff.mp hi
    rw [List.length_range] at hlt
    rw [List.getElem_range]
    exact ⟨rfl, hcome.mp hlt⟩
  · rintro ⟨rfl, hle⟩
    exact ⟨j, List.getElem?_range (hcome.mpr hle), rfl⟩

/-- **The beat** lasts as many intervals as have passed by the answer, and one more. -/
theorem beat_eq (j : Nat) :
    beat interval delay first j =
      first + j * (max interval minInterval * (delay / max interval minInterval + 1)) := by
  have hpos := max_minInterval_pos interval
  induction j with
  | zero => rw [Nat.zero_mul]; rfl
  | succ j ih =>
      have hdiv : (j * (max interval minInterval * (delay / max interval minInterval + 1)) + delay)
          / max interval minInterval =
            j * (delay / max interval minInterval + 1) + delay / max interval minInterval := by
        rw [Nat.mul_left_comm, Nat.mul_add_div hpos]
      rw [beat, ih, nextTick, Nat.add_assoc, Ticker.dueAfter_add hpos, hdiv, Nat.add_assoc,
        ← Nat.succ_mul, Nat.mul_right_comm, Nat.mul_assoc]

/-- **Fetches to a beat.** Nobody asks the poller for a refresh, the platform takes `delay`
milliseconds over every answer, and the clock stops at every deadline. Such a run gets to every
time. Whatever its interval is, the first fetch starts when the poller wakes up first, every other
one at the first tick after the answer to the one before, and no fetch starts besides. The `j`-th
fetch starts `j * (I * (delay / I + 1))` milliseconds after the first one, where `I` is the
interval, or one millisecond if that is zero. -/
theorem fetches_to_a_beat (target : Target) (interval delay : Nat) (outcome : Nat → Outcome)
    (first : Nat) :
    (∀ passed, ∃ c, Steady target interval delay outcome first c ∧ c.now = first + passed) ∧
    ∀ c, Steady target interval delay outcome first c →
      c.poller.started = c.begun.length ∧
      (∀ j s, c.begun[j]? = some s ↔ s = beat interval delay first j ∧ s ≤ c.now) ∧
      ∀ j s, c.begun[j]? = some s ↔
        s = first + j * (max interval minInterval * (delay / max interval minInterval + 1)) ∧
          s ≤ c.now := by
  refine ⟨Steady.exists_now_eq target interval delay outcome first, fun c h => ?_⟩
  obtain ⟨n, hn⟩ := h.inBeat
  refine ⟨hn.started_eq.trans hn.length_begun.symm, hn.begun_iff, fun j s => ?_⟩
  rw [← beat_eq]
  exact hn.begun_iff j s

/-- A fetch takes two seconds and a tick comes every second: the tick at the moment of the answer is
lost, and the second fetch starts one second later. -/
theorem second_fetch_after_three_ticks :
    ∃ c, Steady ⟨"t", "r"⟩ 1000 2000 (fun _ => .error (.unavailable "503")) 0 c ∧ c.now = 3000 ∧
      c.begun[1]? = some 3000 := by
  have hrun := ((@Steady.first ⟨"t", "r"⟩ 1000 2000 (fun _ => .error (.unavailable "503")) 0).next
    1000 (by decide)).next 1000 (by decide) |>.next 1000 (by decide)
  obtain ⟨-, hbeat⟩ := fetches_to_a_beat ⟨"t", "r"⟩ 1000 2000
    (fun _ => .error (.unavailable "503")) 0
  obtain ⟨-, -, hstart⟩ := hbeat _ hrun
  exact ⟨_, hrun, rfl, (hstart 1 3000).mpr ⟨rfl, Nat.le_refl _⟩⟩

end Poller

end Lookout.Polling
