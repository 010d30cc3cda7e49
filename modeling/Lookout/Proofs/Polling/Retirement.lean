import Lookout.Polling.Fleet

/-! # Pollers that were unmounted
A poller may be unmounted while its fetch is unanswered, requests wait and ticks are due. The fleet
goes on: its clock moves, other pollers run, and the platform answers calls, those of the unmounted
poller as well. This file shows that **none of it reaches a poller that was unmounted**.

* `Fleet.Move`, `Fleet.makeAll`: everything that can happen to a fleet, in any order.
* `Retired`: a poller of a fleet that stands still, and the calls it has made; kept by every move.
* `retired_deactivate`: a poller that is unmounted is retired. -/

namespace Lookout.Polling.Fleet

/-! ## Everything that can happen -/

/-- A **move** of a fleet. -/
inductive Move
  /-- A poller is mounted. -/
  | mount (target : Target) (interval : Nat)
  /-- A poller is asked for a refresh. -/
  | trigger (index : Nat)
  /-- A poller is unmounted. -/
  | deactivate (index : Nat)
  /-- The platform answers a call. -/
  | resolve (call : Nat) (o : Outcome)
  /-- A poller runs for one stretch. -/
  | run (index : Nat)
  /-- All pollers that were woken run until they have fallen asleep. -/
  | settle
  /-- The clock moves. -/
  | advance (time : Nat)

/-- The fleet after a move. -/
def make (f : Fleet) : Move → Fleet
  | .mount target interval => (f.mount target interval).1
  | .trigger index => (f.trigger index).1
  | .deactivate index => (f.deactivate index).1
  | .resolve call o => (f.resolve call o).1
  | .run index => (f.run index).1
  | .settle => f.settle.1
  | .advance time => (f.advance time).1

/-- The fleet after several moves. -/
def makeAll (f : Fleet) (ms : List Move) : Fleet := ms.foldl make f

/-- The calls that a poller has made: the fetches they were for, and the runs asked for. -/
def callsOf (f : Fleet) (index : Nat) : List (Nat × Target) :=
  (f.calls.filter (·.poller = index)).map fun c => (c.fetch, c.target)

/-- An answer does not make a call. -/
theorem callsOf_answer (f : Fleet) {call : Nat} {c : Call} (hc : f.calls[call]? = some c)
    (a : Option Outcome) (index : Nat) :
    { f with calls := f.calls.set call { c with answer := a } }.callsOf index = f.callsOf index := by
  simp only [callsOf]
  generalize f.calls = cs at hc
  induction cs generalizing call with
  | nil => rfl
  | cons d cs ih =>
      cases call with
      | zero =>
          obtain rfl : d = c := Option.some.inj hc
          simp only [List.set_cons_zero, List.filter_cons]
          split <;> rfl
      | succ call =>
          simp only [List.set_cons_succ, List.filter_cons]
          split
          · rw [List.map_cons, List.map_cons, ih hc]
          · exact ih hc

/-- A call of another poller is none of this one's. -/
theorem callsOf_append (f : Fleet) {index : Nat} {cs : List Call}
    (h : ∀ c ∈ cs, c.poller ≠ index) :
    { f with calls := f.calls ++ cs }.callsOf index = f.callsOf index := by
  have hnil : cs.filter (·.poller = index) = [] := by
    rw [List.filter_eq_nil_iff]
    intro c hc
    simpa using h c hc
  simp only [callsOf, List.filter_append, hnil, List.append_nil]

/-- What a poller calls for are its own fetches. -/
theorem poller_of_mem_newCalls {f : Fleet} {index : Nat} {p : Poller} {c : Call}
    (h : c ∈ f.newCalls index p) : c.poller = index := by
  obtain ⟨k, -, rfl⟩ := List.mem_map.mp h
  rfl

/-! ## Pollers that stand still -/

/-- A poller of a fleet is **retired** as `p` if it is not mounted any more and has come to `p`, with
these calls. -/
structure Retired (index : Nat) (p : Poller) (calls : List (Nat × Target)) (f : Fleet) : Prop where
  /-- The poller is where it was. -/
  poller_eq : f.pollers[index]? = some p
  /-- It is not mounted. -/
  running_eq : p.running = false
  /-- It has made these calls. -/
  calls_eq : f.callsOf index = calls

namespace Retired

variable {index : Nat} {p : Poller} {calls : List (Nat × Target)} {f : Fleet}

/-- Whatever differs but pollers and calls does not matter. -/
theorem congr (h : Retired index p calls f) {g : Fleet} (hp : g.pollers = f.pollers)
    (hc : g.calls = f.calls) : Retired index p calls g := by
  refine ⟨?_, h.running_eq, ?_⟩
  · rw [hp]
    exact h.poller_eq
  · rw [callsOf, hc]
    exact h.calls_eq

/-- A poller that is mounted is another one. -/
theorem ne_of_running (h : Retired index p calls f) {other : Nat} {q : Poller}
    (hq : f.pollers[other]? = some q) (hrun : q.running = true) : other ≠ index := by
  rintro rfl
  obtain rfl : p = q := Option.some.inj (h.poller_eq.symm.trans hq)
  rw [h.running_eq] at hrun
  cases hrun

/-- Another poller has changed. -/
theorem set (h : Retired index p calls f) {other : Nat} (ho : other ≠ index) (q : Poller) :
    Retired index p calls { f with pollers := f.pollers.set other q } :=
  ⟨(List.getElem?_set_ne ho).trans h.poller_eq, h.running_eq, h.calls_eq⟩

/-- Waking somebody changes nothing yet. -/
theorem rouse (h : Retired index p calls f) (other : Nat) :
    Retired index p calls (f.rouse other) := by
  unfold Fleet.rouse
  split
  · exact h
  · exact h.congr rfl rfl

/-- A poller that is mounted comes after all others. -/
theorem mount (h : Retired index p calls f) (target : Target) (interval : Nat) :
    Retired index p calls (f.mount target interval).1 := by
  have hlt : index < f.pollers.length := (List.getElem?_eq_some_iff.mp h.poller_eq).1
  have happ : Retired index p calls
      { f with pollers := f.pollers ++ [Poller.mount target interval] } :=
    ⟨(List.getElem?_append_left hlt).trans h.poller_eq, h.running_eq, h.calls_eq⟩
  exact happ.rouse _

/-- Whoever is asked for a refresh, a retired poller is not. -/
theorem trigger (h : Retired index p calls f) (other : Nat) :
    Retired index p calls (f.trigger other).1 := by
  unfold Fleet.trigger
  split
  · exact h
  · next q hq =>
      split
      · next hrun => exact (h.set (h.ne_of_running hq hrun) q.ask).rouse _
      · exact h

/-- Whoever is unmounted, a retired poller was so before. -/
theorem deactivate (h : Retired index p calls f) (other : Nat) :
    Retired index p calls (f.deactivate other).1 := by
  unfold Fleet.deactivate
  split
  · exact h
  · next q hq =>
      split
      · next hrun => exact h.set (h.ne_of_running hq hrun) q.stop
      · exact h

/-- An answer goes to the call, and wakes nobody who is retired. -/
theorem resolve (h : Retired index p calls f) (call : Nat) (o : Outcome) :
    Retired index p calls (f.resolve call o).1 := by
  unfold Fleet.resolve
  split
  · exact h
  · next c hc =>
      split
      · exact h
      · have hanswered : Retired index p calls
            { f with calls := f.calls.set call { c with answer := some o } } :=
          ⟨h.poller_eq, h.running_eq, (callsOf_answer f hc (some o) index).trans h.calls_eq⟩
        simp only
        split
        · exact hanswered.rouse c.poller
        · exact hanswered

/-- A stretch of a retired poller is empty, and one of another poller is not its own. -/
theorem run (h : Retired index p calls f) (other : Nat) :
    Retired index p calls (f.run other).1 := by
  unfold Fleet.run
  split
  · exact h
  · next q hq =>
      by_cases hne : other = index
      · subst hne
        obtain rfl : p = q := Option.some.inj (h.poller_eq.symm.trans hq)
        have hwake : p.wake f.now (f.answers other) = ⟨p, [], false⟩ := by
          rw [Poller.wake, h.running_eq]
          rfl
        have hlt : other < f.pollers.length := (List.getElem?_eq_some_iff.mp hq).1
        refine ⟨?_, h.running_eq, ?_⟩
        · rw [hwake]
          exact List.getElem?_set_self hlt
        · simp only [h.running_eq, callsOf, Bool.false_and, Bool.false_eq_true, if_false,
            List.append_nil]
          exact h.calls_eq
      · refine ⟨(List.getElem?_set_ne hne).trans h.poller_eq, h.running_eq, ?_⟩
        refine (callsOf_append f ?_).trans h.calls_eq
        intro c hc
        split at hc
        · rw [poller_of_mem_newCalls hc]
          exact hne
        · cases hc

/-- Whoever runs, a retired poller stays retired. -/
theorem runAll (h : Retired index p calls f) (is : List Nat) :
    Retired index p calls (f.runAll is).1 := by
  induction is generalizing f with
  | nil => exact h
  | cons i is ih => exact ih (h.run i)

/-- Whoever was woken, a retired poller stays retired. -/
theorem round (h : Retired index p calls f) : Retired index p calls f.round.1 :=
  (h.congr (g := { f with woken := [] }) rfl rfl).runAll f.woken

/-- However long all others run, a retired poller stays retired. -/
theorem settle (h : Retired index p calls f) : Retired index p calls f.settle.1 := by
  induction f using Fleet.settle.induct with
  | case1 f hidle =>
      rw [Fleet.settle, if_pos hidle]
      exact h
  | case2 f hwoken ih =>
      rw [Fleet.settle, if_neg hwoken]
      exact ih h.round

/-- However late it gets, a retired poller stays retired. -/
theorem advance (h : Retired index p calls f) (time : Nat) :
    Retired index p calls (f.advance time).1 := by
  have hroused : ∀ (is : List Nat) {g : Fleet}, Retired index p calls g →
      Retired index p calls (is.foldl Fleet.rouse g) := by
    intro is
    induction is with
    | nil => exact id
    | cons i is ih => exact fun hg => ih (hg.rouse i)
  have hlater : Retired index p calls
      { f.round.1 with now := f.round.1.now + time, woken := [] } := h.round.congr rfl rfl
  exact (hroused _ hlater).settle

/-- No move of the fleet reaches a retired poller. -/
theorem make (h : Retired index p calls f) (m : Move) : Retired index p calls (f.make m) := by
  cases m with
  | mount target interval => exact h.mount target interval
  | trigger other => exact h.trigger other
  | deactivate other => exact h.deactivate other
  | resolve call o => exact h.resolve call o
  | run other => exact h.run other
  | settle => exact h.settle
  | advance time => exact h.advance time

/-- No run of the fleet reaches a retired poller. -/
theorem makeAll (h : Retired index p calls f) (ms : List Move) :
    Retired index p calls (f.makeAll ms) := by
  induction ms generalizing f with
  | nil => exact h
  | cons m ms ih => exact ih (h.make m)

end Retired

/-- A poller that is unmounted is retired from then on. -/
theorem retired_deactivate {f : Fleet} {index : Nat} {p : Poller}
    (h : f.pollers[index]? = some p) (hrun : p.running = true) :
    Retired index p.stop (f.callsOf index) (f.deactivate index).1 := by
  have hlt : index < f.pollers.length := (List.getElem?_eq_some_iff.mp h).1
  simp only [Fleet.deactivate, h, hrun, if_true]
  exact ⟨List.getElem?_set_self hlt, rfl, rfl⟩

end Lookout.Polling.Fleet
