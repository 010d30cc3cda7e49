import Lookout.Polling.State
import Lookout.Polling.Ticker

/-! # Pollers
A **poller** keeps the record of one run fresh. It fetches when it is mounted, and then at every tick
and whenever somebody asks for it, but never while a fetch is under way.

A poller sleeps until it is woken. Awake, it makes one `Poller.turn` after the other until none is
left: it takes a request, else a tick that is due, else the answer to its fetch. So requests and ticks
that came during a fetch are seen before its end and start nothing. The answers are given by a
function from the number of a fetch, counted from zero, since an answer may be there as soon as a
fetch starts. Every turn uses something up (`Poller.budget_turn`), which is why a poller falls asleep
again. It does not make all its turns at a stretch if there are many: after `Poller.longestStretch`
of them others may run before it goes on, which changes nothing about its own turns
(`Poller.turns_eq_of_turnsUpTo`). -/

namespace Lookout.Polling

/-- A **poller**. -/
structure Poller where
  /-- The run it watches. -/
  target : Target
  /-- The time between two ticks. -/
  interval : Nat
  /-- The interval takes time. -/
  interval_pos : 0 < interval
  /-- The ticker, once the poller was awake. -/
  ticker : Option Ticker
  /-- The state. -/
  state : State
  /-- The state published last. -/
  published : State
  /-- How many states were published after the first one. -/
  publications : Nat
  /-- How many requests wait. -/
  requests : Nat
  /-- How many fetches were started. -/
  started : Nat
  /-- The number of the fetch under way. -/
  inFlight : Option Nat
  /-- Whether the poller is mounted. -/
  running : Bool
  deriving Repr

namespace Poller

/-- The shortest interval, in milliseconds. -/
def minInterval : Nat := 1

/-- A poller for a run, with the first fetch started; shorter intervals than the shortest are raised
to it. -/
def mount (target : Target) (interval : Nat) : Poller :=
  ⟨target, max interval minInterval, Nat.lt_of_lt_of_le (by decide) (Nat.le_max_right _ _), none,
    State.initial.begin, State.initial.begin, 0, 0, 1, some 0, true⟩

/-- The event that reports that a poller was mounted. -/
def mounted (p : Poller) : Event := .pollActivated p.target p.interval

/-- Publish the state. -/
def publish (p : Poller) : Poller :=
  { p with published := p.state, publications := p.publications + 1 }

/-- Ask for a refresh. -/
def ask (p : Poller) : Poller := { p with requests := p.requests + 1 }

/-- Unmount the poller; a fetch under way will never be noticed. -/
def stop (p : Poller) : Poller := { p with running := false }

/-- Start a fetch unless one is under way. -/
def trigger (p : Poller) : Poller :=
  match p.state.phase with
  | .idle =>
    { p with state := p.state.begin, started := p.started + 1, inFlight := some p.started }.publish
  | .fetching => p

/-- The event that reports what came of a trigger. -/
def triggered (p : Poller) (t : Trigger) : Event :=
  match p.state.phase with
  | .idle => .pollFetchStarted p.target t
  | .fetching => .pollTriggerSuppressed p.target t

/-- Take the answer to the fetch under way. -/
def finish (p : Poller) (o : Outcome) : Poller :=
  { p with state := p.state.finish o, inFlight := none }.publish

/-- The event that reports the end of a fetch. -/
def finished (p : Poller) : Outcome → Event
  | .ok run => .pollFetchCompleted p.target run.status (p.state.completed + 1)
  | .error f => .pollFetchFailed p.target f.message (p.state.completed + 1)

/-- The ticker with its tick taken, if it is due. -/
def dueTicker? (p : Poller) (now : Nat) : Option Ticker :=
  p.ticker.bind fun t => if t.isDue now then some (t.take now) else none

/-- The answer to the fetch under way, if there is one. -/
def answered? (p : Poller) (answers : Nat → Option Outcome) : Option Outcome :=
  p.inFlight.bind answers

/-- One turn of a poller that is awake, if there is anything to do. -/
def turn (p : Poller) (now : Nat) (answers : Nat → Option Outcome) :
    Option (Poller × Event) :=
  match p.requests with
  | n + 1 => some ({ p with requests := n }.trigger, p.triggered .manual)
  | 0 =>
    match p.dueTicker? now with
    | some t => some ({ p with ticker := some t }.trigger, p.triggered .tick)
    | none => (p.answered? answers).map fun o => (p.finish o, p.finished o)

/-- The ticks that can still come up to a time, counted generously. -/
def ticksLeft (p : Poller) (now : Nat) : Nat :=
  match p.ticker with
  | some t => now + 1 - t.due
  | none => 0

/-- How many fetches are under way. -/
def outstanding (p : Poller) : Nat := if p.inFlight.isSome then 1 else 0

/-- A bound on the number of turns: every request and tick can start a fetch, which can end. -/
def budget (p : Poller) (now : Nat) : Nat := 2 * (p.requests + p.ticksLeft now) + p.outstanding

theorem outstanding_le (p : Poller) : p.outstanding ≤ 1 := by
  unfold outstanding; split <;> decide

@[simp] theorem requests_trigger (p : Poller) : p.trigger.requests = p.requests := by
  unfold trigger; split <;> rfl

@[simp] theorem ticker_trigger (p : Poller) : p.trigger.ticker = p.ticker := by
  unfold trigger; split <;> rfl

@[simp] theorem ticksLeft_trigger (p : Poller) (now : Nat) :
    p.trigger.ticksLeft now = p.ticksLeft now := by
  simp [ticksLeft]

theorem ticksLeft_lt {p : Poller} {now : Nat} {t : Ticker} (h : p.dueTicker? now = some t) :
    now + 1 - t.due < p.ticksLeft now := by
  unfold dueTicker? at h
  unfold ticksLeft
  cases hp : p.ticker with
  | none => simp [hp] at h
  | some u =>
    rw [hp, Option.bind_some] at h
    split at h
    · next hd =>
      have hlt := Ticker.due_lt_due_take hd
      have hle : u.due ≤ now := by simpa [Ticker.isDue] using hd
      obtain rfl := Option.some.inj h
      simp only
      omega
    · simp at h

theorem budget_trigger_le (p : Poller) (now : Nat) :
    p.trigger.budget now ≤ 2 * (p.requests + p.ticksLeft now) + 1 := by
  have h := p.trigger.outstanding_le
  simp only [budget, requests_trigger, ticksLeft_trigger]
  omega

/-- Every turn uses up some of the budget. -/
theorem budget_turn {p q : Poller} {now : Nat} {answers : Nat → Option Outcome} {e : Event}
    (h : p.turn now answers = some (q, e)) : q.budget now < p.budget now := by
  unfold turn at h
  split at h
  · next n hn =>
    obtain ⟨rfl, -⟩ := Prod.mk.inj (Option.some.inj h)
    have hb := budget_trigger_le { p with requests := n } now
    have hl : ({ p with requests := n } : Poller).ticksLeft now = p.ticksLeft now := rfl
    rw [hl] at hb
    refine Nat.lt_of_le_of_lt hb ?_
    simp only [budget, hn]
    omega
  · next hn =>
    split at h
    · next t ht =>
      obtain ⟨rfl, -⟩ := Prod.mk.inj (Option.some.inj h)
      have hlt := ticksLeft_lt ht
      have hb := budget_trigger_le { p with ticker := some t } now
      have hl : ({ p with ticker := some t } : Poller).ticksLeft now = now + 1 - t.due := rfl
      rw [hl] at hb
      refine Nat.lt_of_le_of_lt hb ?_
      simp only [budget, hn]
      omega
    · obtain ⟨o, ho, hfin⟩ := Option.map_eq_some_iff.mp h
      obtain ⟨rfl, -⟩ := Prod.mk.inj hfin
      have hp : p.outstanding = 1 := by
        cases hf : p.inFlight with
        | none => simp [answered?, hf] at ho
        | some k => simp [outstanding, hf]
      have hz : (p.finish o).outstanding = 0 := rfl
      have hl : (p.finish o).ticksLeft now = p.ticksLeft now := rfl
      have hr : (p.finish o).requests = p.requests := rfl
      simp only [budget, hp, hz, hl, hr]
      omega

/-- Make turns until there is nothing left to do. -/
def turns (p : Poller) (now : Nat) (answers : Nat → Option Outcome) : Poller × List Event :=
  match h : p.turn now answers with
  | none => (p, [])
  | some (q, e) =>
    have := budget_turn h
    let (r, es) := q.turns now answers
    (r, e :: es)
termination_by p.budget now

theorem turns_of_turn_eq_none {p : Poller} {now : Nat} {answers : Nat → Option Outcome}
    (h : p.turn now answers = none) : p.turns now answers = (p, []) := by
  rw [turns]
  split
  · rfl
  · next hs => simp [h] at hs

theorem turns_of_turn_eq_some {p q : Poller} {now : Nat} {answers : Nat → Option Outcome} {e : Event}
    (h : p.turn now answers = some (q, e)) :
    p.turns now answers = ((q.turns now answers).1, e :: (q.turns now answers).2) := by
  rw [turns]
  split
  · next hn => simp [h] at hn
  · next hs =>
    obtain ⟨rfl, rfl⟩ := Prod.mk.inj (Option.some.inj (h.symm.trans hs))
    rfl

/-- How a poller that is awake got on. -/
structure Stretch where
  /-- The poller after it. -/
  poller : Poller
  /-- What happened. -/
  events : List Event
  /-- Whether it ended because no further turn was allowed. -/
  stopped : Bool

/-- Make turns until there is nothing left to do, but at most so many. -/
def turnsUpTo (now : Nat) (answers : Nat → Option Outcome) : Nat → Poller → Stretch
  | 0, p => ⟨p, [], true⟩
  | n + 1, p =>
    match p.turn now answers with
    | none => ⟨p, [], false⟩
    | some (q, e) =>
      let s := turnsUpTo now answers n q
      { s with events := e :: s.events }

/-- A stretch of turns and all turns after it are all turns. -/
theorem turns_eq_of_turnsUpTo (p : Poller) (now : Nat) (answers : Nat → Option Outcome) (n : Nat) :
    p.turns now answers =
      (((turnsUpTo now answers n p).poller.turns now answers).1,
        (turnsUpTo now answers n p).events
          ++ ((turnsUpTo now answers n p).poller.turns now answers).2) := by
  induction n generalizing p with
  | zero => rfl
  | succ n ih =>
    cases h : p.turn now answers with
    | none => simp [turnsUpTo, h]
    | some qe =>
      obtain ⟨q, e⟩ := qe
      rw [turns_of_turn_eq_some h, ih q]
      simp [turnsUpTo, h]

/-- A stretch that was stopped used up at least as much of the budget as it had turns. -/
theorem budget_turnsUpTo (now : Nat) (answers : Nat → Option Outcome) (n : Nat) (p : Poller) :
    (turnsUpTo now answers n p).poller.budget now
      + (if (turnsUpTo now answers n p).stopped then n else 0) ≤ p.budget now := by
  induction n generalizing p with
  | zero => simp [turnsUpTo]
  | succ n ih =>
    cases h : p.turn now answers with
    | none => simp [turnsUpTo, h]
    | some qe =>
      obtain ⟨q, e⟩ := qe
      have hq := ih q
      have hlt := budget_turn h
      simp only [turnsUpTo, h]
      cases hs : (turnsUpTo now answers n q).stopped <;> simp [hs] at hq ⊢ <;> omega

/-- Set the ticker going, if it is not. The first tick is due after the interval, and the interval is
its period. -/
def wind (p : Poller) (now : Nat) : Poller :=
  match p.ticker with
  | some _ => p
  | none => { p with ticker := some ⟨p.interval, p.interval_pos, now + p.interval⟩ }

/-- Setting the ticker going makes no tick due. -/
theorem budget_wind (p : Poller) (now : Nat) : (p.wind now).budget now = p.budget now := by
  have hpos := p.interval_pos
  unfold wind
  split
  · rfl
  · next h =>
    have hz : now + 1 - (now + p.interval) = 0 := by omega
    simp [budget, ticksLeft, outstanding, h, hz]

/-- The most turns that a poller makes in one stretch. -/
def longestStretch : Nat := 128

/-- Wake a poller at a time, for one stretch; an unmounted one stays asleep. -/
def wake (p : Poller) (now : Nat) (answers : Nat → Option Outcome) : Stretch :=
  if p.running then turnsUpTo now answers longestStretch (p.wind now) else ⟨p, [], false⟩

/-- A poller that was stopped used up some of its budget. -/
theorem budget_wake (p : Poller) (now : Nat) (answers : Nat → Option Outcome) :
    (p.wake now answers).poller.budget now
      + (if (p.wake now answers).stopped then 1 else 0) ≤ p.budget now := by
  unfold wake
  split
  · have h := budget_turnsUpTo now answers longestStretch (p.wind now)
    rw [budget_wind] at h
    refine Nat.le_trans (Nat.add_le_add_left ?_ _) h
    split
    · decide
    · exact Nat.le_refl _
  · simp

end Poller

end Lookout.Polling
