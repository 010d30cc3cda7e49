import Lookout.Proofs.Polling.Outcomes
import Lookout.Cli.Watch

/-! # How a watch ends
A watch looks at the states that a poller publishes and has to make out from them which fetches came
to an end since it looked last, although a state is published more than once and keeps its record and
its error. This file shows that it reports every outcome once, and that it ends with the outcome it
should end with.

* `Ending`: the outcome that a watch is to end with, and how, in terms of the outcomes alone.
* `Observed`: the states that a watch looks at if it misses no outcome.
* `watch_ends`: the whole statement, for any such states, for the states that pollers publish, and
  for the watch that the command runs. -/

namespace Lookout.Cli

open Polling (State Outcome)

variable {f : Nat → Outcome} {limit : Option UInt64} {i k n : Nat}

/-! ## What is to be reported -/

/-- How many of so many outcomes are **successes**. -/
def succeeded (f : Nat → Outcome) (k : Nat) : Nat := (List.range k).countP fun i => (f i).isOk

/-- How many lines the log of the run had in the last good one of so many outcomes. -/
def linesShown (f : Nat → Outcome) : Nat → Nat
  | 0 => 0
  | k + 1 =>
    match f k with
    | .ok r => r.logs.length
    | .error _ => linesShown f k

/-- The **report** about an outcome. A good one is shown, with the lines of the log that are new; a
failure is told of if something good came before, and otherwise ends the watch. -/
def reportOf (f : Nat → Outcome) (k : Nat) : List Output :=
  match f k with
  | .ok r => (runLines (linesShown f k) r).map fun l => .answer (l ++ "\n")
  | .error e =>
    if k = 0 then []
    else [.event (.watchRefreshFailed e.message),
      .notice ("Refresh failed, showing last known state: " ++ e.message)]

/-- The reports about so many outcomes, each of them once. -/
def reportsOf (f : Nat → Outcome) (k : Nat) : List Output := (List.range k).flatMap (reportOf f)

/-- Whether an outcome can end a watch that began well: a success that is terminal, or that brings
the successes up to the limit. -/
def Ends (limit : Option UInt64) (f : Nat → Outcome) (i : Nat) : Prop :=
  ∃ r, f i = .ok r ∧ (r.isTerminal = true ∨ ∃ n, limit = some n ∧ succeeded f (i + 1) = n.toNat)

/-- **How a watch is to end**: with the first outcome if that is a failure, and otherwise with the
first outcome that can end it. -/
inductive Ending (limit : Option UInt64) (f : Nat → Outcome) : Nat → Verdict → Prop
  /-- The first fetch failed. -/
  | failure {e : CallFailure} (h : f 0 = .error e) : Ending limit f 0 (.error e.message)
  /-- A refresh was the last one. -/
  | success {i : Nat} {r : Run} (hfirst : (f 0).isOk = true) (hr : f i = .ok r)
      (hends : Ends limit f i) (hleast : ∀ j < i, ¬Ends limit f j) :
      Ending limit f i (.ok (if r.isTerminal then .terminal else .refreshLimit))

/-- A watch that has seen so many outcomes **observes** states if they tell of the outcomes and none
is missed: whenever it looks, there is one more outcome at most. -/
inductive Observed (f : Nat → Outcome) : Nat → List State → Nat → Prop
  /-- It looks no more. -/
  | nil (k : Nat) : Observed f k [] k
  /-- Nothing came to an end since, whatever else was published. -/
  | again {k n : Nat} {s : State} {ss : List State} (hs : s.Tells f) (hk : s.completed = k)
      (h : Observed f k ss n) : Observed f k (s :: ss) n
  /-- Another fetch came to an end, and the next one may have started. -/
  | next {k n : Nat} {s : State} {ss : List State} (hs : s.Tells f) (hk : s.completed = k + 1)
      (h : Observed f (k + 1) ss n) : Observed f k (s :: ss) n

/-! ## Counting successes -/

/-- The next outcome counts if it is a success. -/
theorem succeeded_succ (f : Nat → Outcome) (k : Nat) :
    succeeded f (k + 1) = succeeded f k + if (f k).isOk then 1 else 0 := by
  rw [succeeded, List.range_succ, List.countP_append, List.countP_singleton]
  rfl

/-- A success counts. -/
theorem succeeded_succ_of_ok {r : Run} (h : f k = .ok r) :
    succeeded f (k + 1) = succeeded f k + 1 := by
  rw [succeeded_succ, h]
  rfl

/-- A failure does not count. -/
theorem succeeded_succ_of_error {e : CallFailure} (h : f k = .error e) :
    succeeded f (k + 1) = succeeded f k := by
  rw [succeeded_succ, h]
  rfl

/-- While no outcome could end a watch, the successes stay below the limit. -/
theorem succeeded_lt {l : UInt64} (hl : 1 ≤ l.toNat) (hnone : ∀ j < i, ¬Ends (some l) f j) :
    succeeded f i < l.toNat := by
  induction i with
  | zero => exact hl
  | succ i ih =>
      have hlt := ih fun j hj => hnone j (Nat.lt_succ_of_lt hj)
      cases hi : f i with
      | ok r =>
          have hne : succeeded f (i + 1) ≠ l.toNat := fun heq =>
            hnone i (Nat.lt_succ_self i) ⟨r, hi, .inr ⟨l, rfl, heq⟩⟩
          rw [succeeded_succ_of_ok hi] at hne ⊢
          omega
      | error e =>
          rw [succeeded_succ_of_error hi]
          exact hlt

/-! ## One look -/

/-- How far a watch has come that has seen so many outcomes and goes on. -/
def Progress.having (f : Nat → Outcome) (k : Nat) : Progress := ⟨k, succeeded f k, linesShown f k⟩

/-- What a watch makes of the outcome that it has just seen. -/
def verdictAt (limit : Option UInt64) (f : Nat → Outcome) (k : Nat) : Option Verdict :=
  match f k with
  | .ok r => (Progress.endOf limit (succeeded f (k + 1)) r).map .ok
  | .error e => if k = 0 then some (.error e.message) else none

namespace Progress

/-- Nothing is reported while no other fetch came to an end. -/
theorem observe_again {s : State} (hk : s.completed = k) :
    (having f k).observe limit s = (having f k, [], none) :=
  if_pos hk

/-- The next outcome is reported, and decides whether the watch goes on. -/
theorem observe_next {s : State} (hs : s.Tells f) (hk : s.completed = k + 1)
    (hgood : k = 0 ∨ (f 0).isOk = true) :
    (having f k).observe limit s = (having f (k + 1), reportOf f k, verdictAt limit f k) := by
  have hseen : ¬s.completed = (having f k).seen := by
    rw [hk]
    exact Nat.succ_ne_self k
  have hgoodRun := hs.lastGood_eq
  have herror := hs.lastError_eq
  rw [observe, if_neg hseen]
  unfold report
  rw [hgoodRun, herror, hk]
  cases hf : f k with
  | ok r =>
      rw [State.after_succ_of_ok hf]
      simp only [having, reportOf, verdictAt, hf, succeeded_succ_of_ok hf, linesShown]
  | error e =>
      rw [State.after_succ_of_error hf]
      cases k with
      | zero =>
          simp only [State.after, State.initial, having, reportOf, verdictAt, hf,
            succeeded_succ_of_error hf, linesShown, if_true]
      | succ k =>
          -- The first outcome was good, so there is a record to keep showing.
          obtain ⟨r, hr⟩ : ∃ r, f 0 = .ok r := by
            cases h0 : f 0 with
            | ok r => exact ⟨r, rfl⟩
            | error e => simp [h0, Except.isOk, Except.toBool] at hgood
          obtain ⟨g, hg⟩ := Option.isSome_iff_exists.mp (State.isSome_lastGood_after hr k)
          simp only [hg, having, reportOf, verdictAt, hf, succeeded_succ_of_error hf, linesShown,
            Nat.succ_ne_zero, if_false]

end Progress

/-! ## What a look decides -/

/-- A watch that goes on after its first look has seen something good. -/
theorem isOk_of_undecided (hgood : k = 0 ∨ (f 0).isOk = true) (h : verdictAt limit f k = none) :
    (f 0).isOk = true := by
  rcases hgood with rfl | hgood
  · cases hf : f 0 with
    | ok r => rfl
    | error e => simp [verdictAt, hf] at h
  · exact hgood

/-- An outcome that can end a watch does so. -/
theorem verdictAt_of_ends {r : Run} (hr : f i = .ok r) (h : Ends limit f i) :
    verdictAt limit f i =
      some (.ok (if r.isTerminal then .terminal else .refreshLimit)) := by
  obtain ⟨s, hs, hends⟩ := h
  obtain rfl : r = s := Except.ok.inj (hr.symm.trans hs)
  simp only [verdictAt, hr, Progress.endOf]
  split
  · rfl
  · next hterm =>
      rcases hends with hterminal | ⟨l, rfl, hl⟩
      · exact absurd hterminal hterm
      · have hreached : l.toNat ≤ succeeded f (i + 1) := Nat.le_of_eq hl.symm
        simp [hreached]

/-- The first success that ends a watch is one that can end it: the successes reach the limit one by
one. -/
theorem ends_of_verdictAt (hlimit : ∀ l, limit = some l → 1 ≤ l.toNat) {r : Run} (hr : f i = .ok r)
    (hleast : ∀ j < i, ¬Ends limit f j) (h : verdictAt limit f i ≠ none) : Ends limit f i := by
  refine ⟨r, hr, ?_⟩
  by_cases hterm : r.isTerminal = true
  · exact .inl hterm
  · simp only [verdictAt, hr, Progress.endOf, if_neg hterm] at h
    cases limit with
    | none => simp at h
    | some l =>
        have hreached : l.toNat ≤ succeeded f (i + 1) :=
          Decidable.by_contra fun hnot => h (by simp [hnot])
        have hbelow := succeeded_lt (hlimit l rfl) hleast
        rw [succeeded_succ_of_ok hr] at hreached ⊢
        exact .inr ⟨l, rfl, by omega⟩

/-- A watch decides on its end with the outcome it is to end with, and not before. -/
theorem Ending.decided (hlimit : ∀ l, limit = some l → 1 ≤ l.toNat) {v : Verdict}
    (h : Ending limit f i v) :
    verdictAt limit f i = some v ∧ ∀ j < i, verdictAt limit f j = none := by
  cases h with
  | failure h => exact ⟨by simp [verdictAt, h], fun j hj => absurd hj (Nat.not_lt_zero j)⟩
  | @success i r hfirst hr hends hleast =>
      refine ⟨verdictAt_of_ends hr hends, fun j hj => ?_⟩
      cases hf : f j with
      | ok s =>
          refine Decidable.by_contra fun hne => hleast j hj ?_
          exact ends_of_verdictAt hlimit hf (fun m hm => hleast m (Nat.lt_trans hm hj)) hne
      | error e =>
          have hne : j ≠ 0 := by
            rintro rfl
            rw [hf] at hfirst
            cases hfirst
          simp only [verdictAt, hf, if_neg hne]

/-- A watch is to end with the first outcome that it decides on. -/
theorem ending_of_decided (hlimit : ∀ l, limit = some l → 1 ≤ l.toNat) {v : Verdict}
    (hi : verdictAt limit f i = some v) (hnone : ∀ j < i, verdictAt limit f j = none) :
    Ending limit f i v := by
  have hleast : ∀ j < i, ¬Ends limit f j := by
    intro j hj hends
    obtain ⟨r, hr, -⟩ := id hends
    have hsome := verdictAt_of_ends hr hends
    rw [hnone j hj] at hsome
    cases hsome
  cases hf : f i with
  | ok r =>
      have hfirst : (f 0).isOk = true := by
        rcases Nat.eq_zero_or_pos i with rfl | hpos
        · rw [hf]
          rfl
        · exact isOk_of_undecided (.inl rfl) (hnone 0 hpos)
      have hends := ends_of_verdictAt hlimit hf hleast (hi ▸ Option.some_ne_none v)
      obtain rfl := Option.some.inj (hi.symm.trans (verdictAt_of_ends hf hends))
      exact .success hfirst hf hends hleast
  | error e =>
      simp only [verdictAt, hf] at hi
      split at hi
      · next hzero =>
          subst hzero
          obtain rfl := Option.some.inj hi
          exact .failure hf
      · cases hi

/-- A watch goes on as long as it is not to end. -/
theorem undecided_of_not_ending (hlimit : ∀ l, limit = some l → 1 ≤ l.toNat)
    (h : ∀ i v, Ending limit f i v → n ≤ i) : ∀ j < n, verdictAt limit f j = none := by
  intro j
  induction j using Nat.strongRecOn with
  | ind j ih =>
      intro hj
      cases hv : verdictAt limit f j with
      | none => rfl
      | some v =>
          have hend := ending_of_decided hlimit hv fun m hm => ih m hm (Nat.lt_trans hm hj)
          exact absurd (h j v hend) (Nat.not_le_of_lt hj)

/-! ## All looks -/

/-- Outcomes only get more. -/
theorem Observed.le {ss : List State} (h : Observed f k ss n) : k ≤ n := by
  induction h with
  | nil k => exact Nat.le_refl k
  | again _ _ _ ih => exact ih
  | next _ _ _ ih => exact Nat.le_of_succ_le ih

/-- The reports from one outcome on begin with the report about it. -/
theorem flatMap_range'_succ {α : Type} (g : Nat → List α) (h : k < n) :
    (List.range' k (n - k)).flatMap g = g k ++ (List.range' (k + 1) (n - (k + 1))).flatMap g := by
  have hlen : n - k = (n - (k + 1)) + 1 := by omega
  rw [hlen, List.range'_succ, List.flatMap_cons]

namespace Progress

/-- A watch that decides on nothing reports what it sees, and goes on. -/
theorem follow_of_undecided {ss : List State} (h : Observed f k ss n)
    (hgood : k = 0 ∨ (f 0).isOk = true)
    (hnone : ∀ j, k ≤ j → j < n → verdictAt limit f j = none) :
    (having f k).follow limit ss = ((List.range' k (n - k)).flatMap (reportOf f), none) := by
  induction h with
  | nil k => rw [Nat.sub_self]; rfl
  | again _ hk _ ih =>
      simp only [follow, observe_again hk, ih hgood hnone, List.nil_append]
  | @next k n s ss hs hk hrest ih =>
      have hlt : k < n := hrest.le
      have hundecided := hnone k (Nat.le_refl k) hlt
      have hnext := ih (.inr (isOk_of_undecided hgood hundecided))
        fun j hj => hnone j (Nat.le_of_succ_le hj)
      simp only [follow, observe_next hs hk hgood, hundecided, hnext]
      rw [flatMap_range'_succ _ hlt]

/-- A watch ends with the first outcome that it decides on, and has reported those up to it. -/
theorem follow_of_decided {ss : List State} (h : Observed f k ss n)
    (hgood : k = 0 ∨ (f 0).isOk = true) {v : Verdict} (hi : verdictAt limit f i = some v)
    (hnone : ∀ j, k ≤ j → j < i → verdictAt limit f j = none) (hki : k ≤ i) (hin : i < n) :
    (having f k).follow limit ss = ((List.range' k (i + 1 - k)).flatMap (reportOf f), some v) := by
  induction h with
  | nil k => exact absurd hin (Nat.not_lt_of_le hki)
  | again _ hk _ ih =>
      simp only [follow, observe_again hk, ih hgood hnone hki hin, List.nil_append]
  | @next k n s ss hs hk hrest ih =>
      rw [flatMap_range'_succ _ (Nat.lt_succ_of_le hki)]
      rcases Nat.eq_or_lt_of_le hki with rfl | hlt
      · simp only [follow, observe_next hs hk hgood, hi, Nat.sub_self]
        rw [List.range'_zero, List.flatMap_nil, List.append_nil]
      · have hundecided := hnone k (Nat.le_refl k) hlt
        have hnext := ih (.inr (isOk_of_undecided hgood hundecided))
          (fun j hj => hnone j (Nat.le_of_succ_le hj)) hlt hin
        simp only [follow, observe_next hs hk hgood, hundecided, hnext]

end Progress

/-! ## The watch that the command runs -/

/-- The event that reports the end of a fetch. -/
def endOfFetch (target : Target) (f : Nat → Outcome) (k : Nat) : Event :=
  match f k with
  | .ok r => .pollFetchCompleted target r.status (k + 1)
  | .error e => .pollFetchFailed target e.message (k + 1)

namespace Watch

variable {reads : Nat → Except ReadFault String} {w : Watch}

/-- A watch that **has seen** so many outcomes and goes on. -/
structure HasSeen (reads : Nat → Except ReadFault String) (f : Nat → Outcome) (k : Nat) (w : Watch) :
    Prop where
  /-- The outcomes are what the backend makes of its file. -/
  outcome_eq : ∀ n, f n = w.backend.run (reads n) w.target
  /-- The next fetch starts, or has started, after these outcomes. -/
  state_eq : w.poller.state.begin = (State.after f k).begin
  /-- The poller is that of the watched run. -/
  target_eq : w.poller.target = w.target
  /-- Every outcome was reported. -/
  progress_eq : w.progress = .having f k

/-- A watch that starts has seen nothing. -/
theorem hasSeen_start (c : Config) (b : Backend) (o : WatchOptions)
    (hf : ∀ n, f n = b.run (reads n) o.target) : (start c b o).1.HasSeen reads f 0 :=
  ⟨hf, rfl, rfl, rfl⟩

/-- A refresh ends the next fetch and reports its outcome. -/
theorem HasSeen.refresh (h : w.HasSeen reads f k) (hgood : k = 0 ∨ (f 0).isOk = true) :
    ∃ u, w.refresh (reads k) =
        (u, .event (endOfFetch w.target f k) :: reportOf f k, verdictAt w.limit f k) ∧
      u.HasSeen reads f (k + 1) ∧ u.limit = w.limit ∧ u.target = w.target := by
  have hstate : w.poller.trigger.state = (State.after f k).begin :=
    (Polling.Poller.state_trigger w.poller).trans h.state_eq
  have hcompleted : w.poller.trigger.state.completed = k := by
    rw [hstate, State.completed_begin, State.completed_after]
  have hpublished : (w.poller.trigger.finish (f k)).published = State.after f (k + 1) :=
    congrArg (·.finish (f k)) hstate
  have htarget : w.poller.trigger.target = w.target := by
    rw [Polling.Poller.target_trigger, h.target_eq]
  have hobserve : (Progress.having f k).observe w.limit (State.after f (k + 1)) = _ :=
    Progress.observe_next (State.tells_after f (k + 1)) (State.completed_after f (k + 1)) hgood
  have hevent : w.poller.trigger.finished (f k) = endOfFetch w.target f k := by
    unfold Polling.Poller.finished endOfFetch
    cases f k <;> simp only [hcompleted, htarget]
  simp only [Watch.refresh, ← h.outcome_eq k, h.progress_eq, hpublished, hobserve, hevent]
  exact ⟨_, rfl, ⟨h.outcome_eq, congrArg State.begin hpublished, htarget, rfl⟩, rfl, rfl⟩

/-- What is given out at the end depends on the watched run alone. -/
theorem conclude_congr {u : Watch} (h : u.target = w.target) (v : Verdict) :
    u.conclude v = w.conclude v := by
  unfold conclude
  rw [h]

/-- A watch that decides on nothing goes on. -/
theorem HasSeen.run_of_undecided {fuel : Nat} (h : w.HasSeen reads f k)
    (hgood : k = 0 ∨ (f 0).isOk = true)
    (hnone : ∀ j, k ≤ j → j < k + fuel → verdictAt w.limit f j = none) :
    w.run reads fuel k = none := by
  induction fuel generalizing w k with
  | zero => rfl
  | succ fuel ih =>
      obtain ⟨u, hrefresh, hseen, hlimit, -⟩ := h.refresh hgood
      have hundecided := hnone k (Nat.le_refl k) (by omega)
      have hnext := ih hseen (.inr (isOk_of_undecided hgood hundecided))
        fun j hj hlt => hlimit ▸ hnone j (Nat.le_of_succ_le hj) (by omega)
      simp only [run, hrefresh, hundecided, hnext, Option.map_none]

/-- A watch ends with the first outcome that it decides on, and has reported those up to it, each
after the end of its fetch. -/
theorem HasSeen.run_of_decided {fuel : Nat} (h : w.HasSeen reads f k)
    (hgood : k = 0 ∨ (f 0).isOk = true) {v : Verdict} (hi : verdictAt w.limit f i = some v)
    (hnone : ∀ j, k ≤ j → j < i → verdictAt w.limit f j = none) (hki : k ≤ i)
    (hfuel : i < k + fuel) :
    w.run reads fuel k =
      some ((w.conclude v).after ((List.range' k (i + 1 - k)).flatMap fun j =>
        .event (endOfFetch w.target f j) :: reportOf f j)) := by
  induction fuel generalizing w k with
  | zero => omega
  | succ fuel ih =>
      obtain ⟨u, hrefresh, hseen, hlimit, htarget⟩ := h.refresh hgood
      rw [flatMap_range'_succ _ (Nat.lt_succ_of_le hki)]
      rcases Nat.eq_or_lt_of_le hki with rfl | hlt
      · simp only [run, hrefresh, hi, Nat.sub_self, conclude_congr htarget]
        rw [List.range'_zero, List.flatMap_nil, List.append_nil]
      · have hundecided := hnone k (Nat.le_refl k) hlt
        have hnext := ih hseen (.inr (isOk_of_undecided hgood hundecided)) (hlimit ▸ hi)
          (fun j hj hji => hlimit ▸ hnone j (Nat.le_of_succ_le hj) hji) hlt (by omega)
        simp only [run, hrefresh, hundecided, hnext, Option.map_some, conclude_congr htarget,
          htarget]
        simp only [Result.after, List.append_assoc]

end Watch

/-! ## The end of a watch -/

/-- **How a watch ends**, whatever the outcomes of the fetches are, with any limit from one upwards.
A watch that misses none of them reports each outcome once, up to the one that it is to end with, and
ends with that one as soon as it has seen it; while there is none it goes on. Nothing that a poller
publishes gets in the way of this: its states tell of the outcomes, in whatever phase, and between
two of them there is one more outcome at most. The watch that the command runs ends in the same way,
each report after the end of its fetch. -/
theorem watch_ends (limit : Option UInt64) (hlimit : ∀ l, limit = some l → 1 ≤ l.toNat)
    (f : Nat → Outcome) :
    (∀ ss n, Observed f 0 ss n →
        (∀ i v, Ending limit f i v → i < n →
          Progress.initial.follow limit ss = (reportsOf f (i + 1), some v)) ∧
        ((∀ i v, Ending limit f i v → n ≤ i) →
          Progress.initial.follow limit ss = (reportsOf f n, none))) ∧
      (∀ target interval now answers es p,
        Polling.Poller.Trace target interval now answers es p →
        (∀ i o, answers i = some o → f i = o) →
        p.published.Tells f ∧
        ∀ q e, (p.wind now).turn now answers = some (q, e) →
          q.published.completed = p.published.completed ∨
            q.published.completed = p.published.completed + 1) ∧
      ∀ c b o reads fuel, o.refreshes = limit → (∀ n, f n = b.run (reads n) o.target) →
        (∀ i v, Ending limit f i v → i < fuel →
          (Watch.start c b o).1.run reads fuel 0 =
            some (((Watch.start c b o).1.conclude v).after ((List.range (i + 1)).flatMap fun j =>
              .event (endOfFetch o.target f j) :: reportOf f j))) ∧
        ((∀ i v, Ending limit f i v → fuel ≤ i) →
          (Watch.start c b o).1.run reads fuel 0 = none) := by
  refine ⟨?_, ?_, ?_⟩
  · intro ss n h
    refine ⟨?_, ?_⟩
    · intro i v hend hin
      obtain ⟨hi, hnone⟩ := hend.decided hlimit
      rw [reportsOf, List.range_eq_range']
      exact Progress.follow_of_decided h (.inl rfl) hi (fun j _ hj => hnone j hj) (Nat.zero_le i) hin
    · intro hnever
      have hnone := undecided_of_not_ending hlimit hnever
      rw [reportsOf, List.range_eq_range']
      exact Progress.follow_of_undecided h (.inl rfl) fun j _ hj => hnone j hj
  · intro target interval now answers es p h hf
    refine ⟨h.tells hf, fun q e hturn => ?_⟩
    have hwound := h.inStep.wind now
    rw [(hwound.turn hturn).published_eq, h.inStep.published_eq, ← Polling.Poller.state_wind p now]
    exact hwound.completed_turn hturn
  · rintro c b o reads fuel rfl hf
    have h : (Watch.start c b o).1.HasSeen reads f 0 := Watch.hasSeen_start c b o hf
    refine ⟨?_, ?_⟩
    · intro i v hend hfuel
      obtain ⟨hi, hnone⟩ := hend.decided hlimit
      rw [List.range_eq_range']
      exact h.run_of_decided (.inl rfl) hi (fun j _ hj => hnone j hj) (Nat.zero_le i)
        ((Nat.zero_add fuel).symm ▸ hfuel)
    · intro hnever
      have hnone := undecided_of_not_ending hlimit hnever
      exact h.run_of_undecided (.inl rfl) fun j _ hj => hnone j ((Nat.zero_add fuel) ▸ hj)

/-- A run that is watched for two refreshes: it grows by one line of its log each time, and in between
the platform does not answer. The watch sees the first fetch start, then what came of it twice, then
the failure when the third fetch has started, and last what came of that one. -/
theorem watch_ends_after_failure :
    ∃ f ss, Observed f 0 ss 3 ∧ Ending (some 2) f 2 (.ok .refreshLimit) ∧
      Progress.initial.follow (some 2) ss =
        ([.answer "nightly [t/r]: RUNNING\n", .answer "  | one\n",
          .event (.watchRefreshFailed "Backend unavailable: 503"),
          .notice "Refresh failed, showing last known state: Backend unavailable: 503",
          .answer "nightly [t/r]: RUNNING\n", .answer "  | two\n"], some (.ok .refreshLimit)) := by
  let f : Nat → Outcome
    | 0 => .ok ⟨"t", "r", "nightly", .running, none, none, ["one"], none⟩
    | 1 => .error (.unavailable "503")
    | _ => .ok ⟨"t", "r", "nightly", .running, none, none, ["one", "two"], none⟩
  have htells := State.tells_after f
  have hobserved : Observed f 0 [(State.after f 0).begin, State.after f 1, (State.after f 1).begin,
      (State.after f 2).begin, State.after f 3] 3 :=
    .again (htells 0).begin rfl <| .next (htells 1) rfl <| .again (htells 1).begin rfl <|
      .next (htells 2).begin rfl <| .next (htells 3) rfl <| .nil 3
  have hlimit : ∀ l : UInt64, some 2 = some l → 1 ≤ l.toNat := by
    rintro l ⟨rfl⟩
    decide
  have hending : Ending (some 2) f 2 (.ok .refreshLimit) :=
    ending_of_decided hlimit rfl fun
      | 0, _ => rfl
      | 1, _ => rfl
  obtain ⟨hfollow, -, -⟩ := watch_ends (some 2) hlimit f
  exact ⟨f, _, hobserved, hending, (hfollow _ 3 hobserved).1 2 _ hending (by decide)⟩

end Lookout.Cli
