import Lookout.Polling.Poller

/-! # Fleets
A **fleet** is any number of pollers with one clock and one platform. The platform answers a call when
it is told to, and a poller whose call was answered is woken, as is one that was asked for a refresh
or whose ticker is due. Pollers run one at a time, in the order in which they were woken. -/

namespace Lookout.Polling

/-- A **call** that a poller made. -/
structure Call where
  /-- The poller. -/
  poller : Nat
  /-- Which of the poller's fetches it is for. -/
  fetch : Nat
  /-- The run asked for. -/
  target : Target
  /-- The answer. -/
  answer : Option Outcome

/-- A **fleet**. -/
structure Fleet where
  /-- The time. -/
  now : Nat
  /-- The pollers, in the order in which they were mounted. -/
  pollers : List Poller
  /-- The pollers that were woken, in that order. -/
  woken : List Nat
  /-- The pollers whose tickers were set, in the order in which that was done last. -/
  ticking : List Nat
  /-- The calls, in the order in which they were made. -/
  calls : List Call

namespace Fleet

/-- No pollers at time zero. -/
def empty : Fleet := ⟨0, [], [], [], []⟩

/-- Wake a poller unless it was woken already. -/
def rouse (f : Fleet) (index : Nat) : Fleet :=
  if index ∈ f.woken then f else { f with woken := f.woken ++ [index] }

/-- Mount a poller. -/
def mount (f : Fleet) (target : Target) (interval : Nat) : Fleet × List Event :=
  let p := Poller.mount target interval
  ({ f with pollers := f.pollers ++ [p] }.rouse f.pollers.length, [p.mounted])

/-- The answers to the calls of a poller, by the number of the fetch. -/
def answers (f : Fleet) (index fetch : Nat) : Option Outcome :=
  (f.calls.find? fun c => c.poller = index && c.fetch = fetch).bind Call.answer

/-- The calls a poller has not made yet for the fetches it started. -/
def newCalls (f : Fleet) (index : Nat) (p : Poller) : List Call :=
  let made := (f.calls.filter (·.poller = index)).length
  (List.range' made (p.started - made)).map fun k => ⟨index, k, p.target, none⟩

/-- The pollers whose tickers were set, after a poller went from `p` to `q`. A tick that was taken and
a ticker that was set going put the poller last. -/
def ticked (f : Fleet) (index : Nat) (p q : Poller) : List Nat :=
  if q.ticker = p.ticker then f.ticking else f.ticking.erase index ++ [index]

/-- Let a poller run for one stretch. It makes its calls when it has nothing else to do, at the end of
a stretch. A poller that was stopped has not come to that and is woken again, before all others. -/
def run (f : Fleet) (index : Nat) : Fleet × List Event :=
  match f.pollers[index]? with
  | none => (f, [])
  | some p =>
    let s := p.wake f.now (f.answers index)
    let calls := if p.running && !s.stopped then f.newCalls index s.poller else []
    ({ f with
        pollers := f.pollers.set index s.poller
        woken := if s.stopped then index :: f.woken else f.woken
        ticking := f.ticked index p s.poller
        calls := f.calls ++ calls }, s.events)

/-- Let several pollers run one after the other. -/
def runAll (f : Fleet) : List Nat → Fleet × List Event
  | [] => (f, [])
  | i :: is =>
    let (f, es) := f.run i
    let (f, fs) := f.runAll is
    (f, es ++ fs)

/-- Let every poller run that was woken, for one stretch each. -/
def round (f : Fleet) : Fleet × List Event := { f with woken := [] }.runAll f.woken

/-- A bound on the turns of several pollers up to a time. -/
def totalBudget (now : Nat) : List Poller → Nat
  | [] => 0
  | p :: ps => p.budget now + totalBudget now ps

/-- A bound on the turns of all pollers. -/
def budget (f : Fleet) : Nat := totalBudget f.now f.pollers

/-- What one poller uses up, all use up. -/
theorem totalBudget_set (now : Nat) {index : Nat} {p : Poller} (q : Poller) {ps : List Poller}
    (h : ps[index]? = some p) :
    totalBudget now (ps.set index q) + p.budget now = totalBudget now ps + q.budget now := by
  induction ps generalizing index with
  | nil => simp at h
  | cons r rs ih =>
    cases index with
    | zero =>
      obtain rfl : r = p := by simpa using h
      simp only [List.set_cons_zero, totalBudget]
      omega
    | succ i =>
      have hi := @ih i (by simpa using h)
      simp only [List.set_cons_succ, totalBudget]
      omega

/-- A stretch that was stopped used up some of the budget. -/
theorem budget_run (f : Fleet) (index : Nat) :
    (f.run index).1.budget + (f.run index).1.woken.length ≤ f.budget + f.woken.length := by
  unfold run
  split
  · exact Nat.le_refl _
  · next p hp =>
    have hset := totalBudget_set f.now (p.wake f.now (f.answers index)).poller hp
    have hwake := p.budget_wake f.now (f.answers index)
    simp only [budget]
    cases hs : (p.wake f.now (f.answers index)).stopped with
    | false =>
      simp only [hs, Bool.false_eq_true, if_false] at hwake ⊢
      omega
    | true =>
      simp only [hs, if_true, List.length_cons] at hwake ⊢
      omega

theorem budget_runAll (f : Fleet) (is : List Nat) :
    (f.runAll is).1.budget + (f.runAll is).1.woken.length ≤ f.budget + f.woken.length := by
  induction is generalizing f with
  | nil => exact Nat.le_refl _
  | cons i is ih => exact Nat.le_trans (ih (f.run i).1) (f.budget_run i)

/-- A round uses up some of the budget, or else nobody has to go on after it. -/
theorem budget_round (f : Fleet) : f.round.1.budget + f.round.1.woken.length ≤ f.budget :=
  budget_runAll { f with woken := [] } f.woken

/-- Let every poller run that was woken, until all of them have fallen asleep. -/
def settle (f : Fleet) : Fleet × List Event :=
  if f.woken.isEmpty then (f, [])
  else
    let later := f.round.1.settle
    (later.1, f.round.2 ++ later.2)
termination_by f.budget + f.woken.length
decreasing_by
  have hne : ¬f.woken.isEmpty = true := ‹_›
  have hpos : 0 < f.woken.length := by
    rw [List.isEmpty_iff] at hne
    exact List.length_pos_iff.mpr hne
  exact Nat.lt_of_le_of_lt f.budget_round (Nat.lt_add_of_pos_right hpos)

/-- Ask a poller for a refresh. -/
def trigger (f : Fleet) (index : Nat) : Fleet × List Event :=
  match f.pollers[index]? with
  | none => (f, [])
  | some p =>
    if p.running then ({ f with pollers := f.pollers.set index p.ask }.rouse index, [])
    else (f, [.pollTriggerAfterStop p.target])

/-- Ask a poller for several refreshes. -/
def triggerTimes (f : Fleet) (index : Nat) : Nat → Fleet × List Event
  | 0 => (f, [])
  | n + 1 =>
    let (f, es) := f.trigger index
    let (f, fs) := f.triggerTimes index n
    (f, es ++ fs)

/-- Unmount a poller. -/
def deactivate (f : Fleet) (index : Nat) : Fleet × List Event :=
  match f.pollers[index]? with
  | none => (f, [])
  | some p =>
    if p.running then ({ f with pollers := f.pollers.set index p.stop }, [.pollDeactivated p.target])
    else (f, [])

/-- What becomes of an answer. -/
inductive Delivery
  /-- It reaches the poller. -/
  | delivered
  /-- The poller is gone. -/
  | dropped
  /-- The call was answered before. -/
  | alreadyResolved
  /-- There is no such call. -/
  | noSuchCall
  deriving DecidableEq, Repr

/-- The word for a delivery. -/
def Delivery.name : Delivery → String
  | .delivered => "delivered"
  | .dropped => "dropped"
  | .alreadyResolved => "already_resolved"
  | .noSuchCall => "no_such_call"

/-- Whether a poller is mounted. -/
def isRunning (f : Fleet) (index : Nat) : Bool :=
  match f.pollers[index]? with
  | some p => p.running
  | none => false

/-- Answer a call. -/
def resolve (f : Fleet) (call : Nat) (o : Outcome) : Fleet × Delivery :=
  match f.calls[call]? with
  | none => (f, .noSuchCall)
  | some c =>
    match c.answer with
    | some _ => (f, .alreadyResolved)
    | none =>
      let f := { f with calls := f.calls.set call { c with answer := some o } }
      if f.isRunning c.poller then (f.rouse c.poller, .delivered) else (f, .dropped)

/-- When the next tick of a mounted poller is due. -/
def due? (f : Fleet) (index : Nat) : Option Nat :=
  f.pollers[index]?.bind fun p => if p.running then p.ticker.map Ticker.due else none

/-- The pollers whose ticks are due, those due first before others, and of those due at one time those
first whose tickers were set first. -/
def dueFirst (f : Fleet) : List Nat :=
  let due := f.ticking.filterMap fun i =>
    (f.due? i).bind fun d => if d ≤ f.now then some (d, i) else none
  (due.mergeSort fun a b => a.1 ≤ b.1).map Prod.snd

/-- Move the clock at once. Whoever was woken before runs one stretch at the old time; then tickers
wake their pollers, and those that were stopped go on after them. -/
def advance (f : Fleet) (time : Nat) : Fleet × List Event :=
  let (f, es) := f.round
  let stopped := f.woken
  let f := { f with now := f.now + time, woken := [] }
  let (f, fs) := ((f.dueFirst ++ stopped).foldl rouse f).settle
  (f, es ++ fs)

end Fleet

end Lookout.Polling
