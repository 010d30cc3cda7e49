import Mathlib.Algebra.Ring.Parity
import Lookout.Proofs.Polling.Exclusion
import Lookout.Proofs.Store

/-! # A poll state on its own
A poller begins and finishes fetches in turn. Its state does not rely on that: this file is about any
triggers and outcomes in any order. A trigger during a fetch and an outcome without one have no
effect; **the calls that have one alternate, beginning with a trigger**, and they alone are what a
state is made of.

* `State.call`, `State.callAll`: calls, and whether they have an effect.
* `State.effective`: the calls that have one.
* `State.MadeOf`: a state in terms of these; kept by every call.
* `State.effective_closed_form`: the whole statement. -/

namespace Lookout.Polling.State

/-- A **call** of a poll state. -/
inductive Call
  /-- Ask for a fetch, for whatever reason. -/
  | trigger (t : Trigger)
  /-- Hand in the outcome of a fetch. -/
  | finish (o : Outcome)

namespace Call

/-- Whether a call asks for a fetch. -/
def isTrigger : Call → Bool
  | .trigger _ => true
  | .finish _ => false

/-- The outcome that a call hands in. -/
def outcome? : Call → Option Outcome
  | .trigger _ => none
  | .finish o => some o

/-- The record that a call hands in, if it hands in a success. -/
def run? : Call → Option Run
  | .finish (.ok run) => some run
  | .finish (.error _) => none
  | .trigger _ => none

end Call

/-- Make a call: the state after it, and whether the call has an effect. -/
def call (s : State) : Call → State × Bool
  | .trigger _ => (s.begin, s.canBegin)
  | .finish o => (s.finish o, s.canFinish)

/-- The state after several calls. -/
def callAll (s : State) (calls : List Call) : State := calls.foldl (fun s x => (s.call x).1) s

theorem callAll_concat (s : State) (calls : List Call) (x : Call) :
    s.callAll (calls ++ [x]) = ((s.callAll calls).call x).1 := by
  rw [callAll, List.foldl_append]
  rfl

/-- The calls that have an **effect**: the triggers that start a fetch, and the outcomes that are
accepted. -/
def effective (s : State) : List Call → List Call
  | [] => []
  | x :: xs =>
    let rest := effective (s.call x).1 xs
    if (s.call x).2 then x :: rest else rest

theorem effective_concat (s : State) (calls : List Call) (x : Call) :
    s.effective (calls ++ [x]) =
      s.effective calls ++ if ((s.callAll calls).call x).2 = true then [x] else [] := by
  induction calls generalizing s with
  | nil => rfl
  | cons y ys ih =>
      rw [List.cons_append, effective, ih, effective]
      split <;> rfl

/-- A call without effect leaves the state as it is. -/
theorem call_of_refused {s : State} {x : Call} (h : (s.call x).2 = false) : (s.call x).1 = s := by
  cases x with
  | trigger t =>
      have hne : s.phase ≠ .idle := of_decide_eq_false h
      cases hphase : s.phase with
      | idle => exact absurd hphase hne
      | fetching => exact begin_of_fetching hphase
  | finish o =>
      have hne : s.phase ≠ .fetching := of_decide_eq_false h
      cases hphase : s.phase with
      | idle => exact finish_of_idle hphase o
      | fetching => exact absurd hphase hne

/-- Only a success replaces the record. -/
theorem lastGood_finish {s : State} (h : s.phase = .fetching) (o : Outcome) :
    (s.finish o).lastGood = (Call.finish o).run?.or s.lastGood := by
  unfold finish
  rw [h]
  cases o <;> rfl

/-- The error is that of the outcome, if it is a failure. -/
theorem lastError_finish_iff {s : State} (h : s.phase = .fetching) {o : Outcome} {text : String} :
    (s.finish o).lastError = some text ↔ ∃ e, o = .error e ∧ text = e.message := by
  unfold finish
  rw [h]
  cases o with
  | ok run => simp
  | error e => simp [eq_comm]

/-! ## What a state is made of -/

/-- A state that is **made of** calls, all of which had an effect. -/
structure MadeOf (xs : List Call) (s : State) : Prop where
  /-- Every second call is a trigger, the first one among them. -/
  isTrigger_iff : ∀ {i : Nat} {x : Call}, xs[i]? = some x → (x.isTrigger = true ↔ Even i)
  /-- A fetch is under way iff one more was started than ended. -/
  fetching_iff_odd : s.phase = .fetching ↔ Odd xs.length
  /-- A fetch is under way iff the last call was a trigger. -/
  fetching_iff_last : s.phase = .fetching ↔ ∃ t, xs.getLast? = some (.trigger t)
  /-- Every outcome is counted. -/
  completed_eq : s.completed = xs.countP fun x => !x.isTrigger
  /-- The record is the last one that was handed in. -/
  lastGood_eq : s.lastGood = (xs.filterMap Call.run?).getLast?
  /-- The error is that of the last outcome, if it failed. -/
  lastError_iff : ∀ {text}, s.lastError = some text ↔
    ∃ e, (xs.filterMap Call.outcome?).getLast? = some (.error e) ∧ text = e.message

namespace MadeOf

variable {xs : List Call} {s : State}

/-- Before the first fetch a state is made of nothing. -/
theorem initial : MadeOf [] State.initial := by
  refine ⟨?_, ?_, ?_, rfl, rfl, ?_⟩
  · intro i x hx
    cases hx
  · exact iff_of_false (fun h => by cases h) (by simp)
  · exact iff_of_false (fun h => by cases h) (by simp)
  · intro text
    exact iff_of_false (fun h => by cases h) (by simp)

/-- One more call is at the right place if it is a trigger exactly where their number is even. -/
theorem isTrigger_concat (h : MadeOf xs s) {x : Call} (hx : x.isTrigger = true ↔ Even xs.length)
    {i : Nat} {y : Call} (hy : (xs ++ [x])[i]? = some y) : y.isTrigger = true ↔ Even i := by
  rw [List.getElem?_append] at hy
  split at hy
  · exact h.isTrigger_iff hy
  · next hi =>
    obtain ⟨hlt, rfl⟩ := List.getElem?_eq_some_iff.mp hy
    have hlength : i = xs.length := by
      rw [List.length_singleton] at hlt
      omega
    rw [List.getElem_singleton, hlength]
    exact hx

/-- A trigger without a fetch starts one, and keeps record, error and count. -/
theorem begin (h : MadeOf xs s) (hidle : s.phase = .idle) (t : Trigger) :
    MadeOf (xs ++ [.trigger t]) s.begin := by
  have hbegin : s.begin = { s with phase := .fetching } := by rw [State.begin, hidle]
  -- A fetch is not under way, so as many ended as were started.
  have heven : Even xs.length := by
    rw [← Nat.not_odd_iff_even, ← h.fetching_iff_odd, hidle]
    decide
  rw [hbegin]
  refine ⟨h.isTrigger_concat (iff_of_true rfl heven), ?_, ?_, ?_, ?_, ?_⟩
  · refine iff_of_true rfl ?_
    rw [List.length_append, List.length_singleton]
    exact heven.add_one
  · exact iff_of_true rfl ⟨t, List.getLast?_concat⟩
  · rw [List.countP_append]
    exact h.completed_eq
  · rw [getLast?_filterMap_concat]
    exact h.lastGood_eq
  · rw [getLast?_filterMap_concat]
    exact h.lastError_iff

/-- An outcome of the fetch under way ends it and is counted; it replaces the error, and the record
only if it is a success. -/
theorem finish (h : MadeOf xs s) (hfetching : s.phase = .fetching) (o : Outcome) :
    MadeOf (xs ++ [.finish o]) (s.finish o) := by
  have hodd : Odd xs.length := h.fetching_iff_odd.mp hfetching
  have hidle : ¬ (s.finish o).phase = .fetching := by simp
  refine ⟨h.isTrigger_concat ?_, ?_, ?_, ?_, ?_, ?_⟩
  · exact iff_of_false Bool.false_ne_true (Nat.not_even_iff_odd.mpr hodd)
  · refine iff_of_false hidle ?_
    rw [List.length_append, List.length_singleton, Nat.not_odd_iff_even]
    exact hodd.add_one
  · refine iff_of_false hidle ?_
    rw [List.getLast?_concat]
    rintro ⟨t, ht⟩
    cases ht
  · rw [completed_finish hfetching, List.countP_append, h.completed_eq]
    rfl
  · rw [getLast?_filterMap_concat, lastGood_finish hfetching, h.lastGood_eq]
  · intro text
    rw [getLast?_filterMap_concat, lastError_finish_iff hfetching]
    simp [Call.outcome?]

/-- **Every call keeps it**, with the call added if it had an effect. -/
theorem call (h : MadeOf xs s) (x : Call) :
    MadeOf (xs ++ if (s.call x).2 = true then [x] else []) (s.call x).1 := by
  cases hx : (s.call x).2 with
  | false =>
      rw [call_of_refused hx, if_neg Bool.false_ne_true, List.append_nil]
      exact h
  | true =>
      rw [if_pos rfl]
      cases x with
      | trigger t => exact h.begin (of_decide_eq_true hx) t
      | finish o => exact h.finish (of_decide_eq_true hx) o

end MadeOf

/-- **Every state is made of the calls that had an effect.** -/
theorem madeOf_callAll (calls : List Call) :
    MadeOf (initial.effective calls) (initial.callAll calls) := by
  induction calls using List.reverseRecOn with
  | nil => exact .initial
  -- The last call sees the state that the others leave, and is judged by it alone.
  | append_singleton calls x ih =>
      rw [effective_concat, callAll_concat]
      exact ih.call x

/-- **What a poll state does on any calls.** The calls that have an effect are triggers and outcomes in
turn, beginning with a trigger; a call that has none leaves the state as it is. In the end a fetch is
under way iff the last call with an effect is a trigger; all outcomes among these calls are counted, by
a number that has 64 bits as long as fewer than 2⁶⁴ fetches come to an end; the record is the last one
among them, whatever failed since; and the error is that of the last outcome among them, if it
failed. -/
theorem effective_closed_form (calls : List Call) :
    let s := initial.callAll calls
    let xs := initial.effective calls
    (∀ (i : Nat) (x : Call), xs[i]? = some x → (x.isTrigger = true ↔ Even i)) ∧
      (∀ x, (s.call x).2 = false → (s.call x).1 = s) ∧
      (s.phase = .fetching ↔ ∃ t, xs.getLast? = some (.trigger t)) ∧
      s.completed = xs.countP (fun x => !x.isTrigger) ∧
      s.lastGood = (xs.filterMap Call.run?).getLast? ∧
      ∀ text, s.lastError = some text ↔
        ∃ e, (xs.filterMap Call.outcome?).getLast? = some (.error e) ∧ text = e.message := by
  intro s xs
  have h : MadeOf xs s := madeOf_callAll calls
  exact ⟨fun _ _ => h.isTrigger_iff, fun _ => call_of_refused, h.fetching_iff_last, h.completed_eq,
    h.lastGood_eq, fun _ => h.lastError_iff⟩

/-- An outcome before the first fetch is not accepted, nor is a second one for the same fetch; and a
failure leaves the record. -/
example :
    let run : Run := ⟨"t", "r", "", .running, none, none, [], none⟩
    let s := initial.callAll [.finish (.error (.unavailable "404")), .trigger .activated,
      .trigger .tick, .finish (.ok run), .finish (.error (.unavailable "503")), .trigger .manual,
      .finish (.error (.unavailable "502"))]
    s = ⟨.idle, some run, some (CallFailure.unavailable "502").message, 2⟩ := by
  decide

end Lookout.Polling.State
