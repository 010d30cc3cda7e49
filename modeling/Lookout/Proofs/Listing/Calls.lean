import Lookout.Proofs.Listing.Freshness
import Lookout.Proofs.Store

/-! # A list machine on its own
An engine hands every outcome to its machine once, under the token of the query. A machine does not
rely on that. This file is about any calls in any order, with tokens that were never issued, are still
to come or have been used before. **Only the calls in time count**: the begins, and the completions
whose token is the number of begins so far.

* `Machine.call`, `Machine.callAll`: calls, and what they give back.
* `inTime`: the calls that count; the others could as well not be made.
* `Machine.ofCalls`, `Machine.callAll_eq`: the machine in terms of its calls.
* `Machine.callAll_closed_form`: the whole statement. -/

namespace Lookout.Listing

/-! ## Calls -/

/-- A **call** of a list machine. -/
inductive Call
  /-- Begin a query. -/
  | begin (c : Criteria)
  /-- Hand in the outcome of a query, under any token. -/
  | complete (token : Nat) (o : Outcome)

/-- What a call gives back. -/
inductive Reply
  /-- The token of the query that was begun. -/
  | issued (token : Nat)
  /-- What became of the outcome. -/
  | became (completion : Completion)
  deriving DecidableEq

/-- The token that a reply brings. -/
def Reply.token? : Reply → Option Nat
  | .issued token => some token
  | .became _ => none

namespace Machine

/-- Make a call: the machine after it, and what the call gives back. -/
def call (m : Machine) : Call → Machine × Reply
  | .begin c => (m.begin c, .issued (m.begin c).latest)
  | .complete token o => (m.complete token o, .became (m.classify token o))

/-- The machine after several calls. -/
def callAll (m : Machine) (calls : List Call) : Machine := calls.foldl (fun m x => (m.call x).1) m

theorem callAll_concat (m : Machine) (calls : List Call) (x : Call) :
    m.callAll (calls ++ [x]) = ((m.callAll calls).call x).1 := by
  rw [callAll, List.foldl_append]
  rfl

/-- What several calls give back. -/
def replies (m : Machine) : List Call → List Reply
  | [] => []
  | x :: xs => (m.call x).2 :: replies (m.call x).1 xs

theorem replies_concat (m : Machine) (calls : List Call) (x : Call) :
    m.replies (calls ++ [x]) = m.replies calls ++ [((m.callAll calls).call x).2] := by
  induction calls generalizing m with
  | nil => rfl
  | cons y ys ih =>
      rw [List.cons_append, replies, ih, replies, List.cons_append]
      rfl

end Machine

/-! ## Calls in time -/

namespace Call

/-- Whether a call begins a query. -/
def isBegin : Call → Bool
  | .begin _ => true
  | .complete _ _ => false

/-- The criteria that a call begins a query for. -/
def criteria? : Call → Option Criteria
  | .begin c => some c
  | .complete _ _ => none

/-- The outcome that a call hands in. -/
def outcome? : Call → Option Outcome
  | .begin _ => none
  | .complete _ o => some o

/-- The page that a call hands in, if it hands in a success. -/
def page? : Call → Option Page
  | .complete _ (.ok page) => some page
  | .complete _ (.error _) => none
  | .begin _ => none

/-- Whether a call is **in time** after so many begins: a begin always is, and a completion if it has
their number as its token. -/
def isInTime (begun : Nat) : Call → Bool
  | .begin _ => true
  | .complete token _ => token = begun

end Call

/-- How many queries are begun. -/
def begins (calls : List Call) : Nat := calls.countP Call.isBegin

theorem begins_concat (calls : List Call) (x : Call) :
    begins (calls ++ [x]) = begins calls + if x.isBegin = true then 1 else 0 := by
  rw [begins, List.countP_append, List.countP_singleton, begins]

/-- The calls that are in time, when so many queries were begun before all of them. -/
def inTimeFrom (begun : Nat) : List Call → List Call
  | [] => []
  | x :: xs =>
    let rest := inTimeFrom (if x.isBegin then begun + 1 else begun) xs
    if x.isInTime begun then x :: rest else rest

/-- The calls that are **in time**. -/
def inTime (calls : List Call) : List Call := inTimeFrom 0 calls

/-- Whether one more call is in time depends on how many queries were begun by then. -/
theorem inTimeFrom_concat (begun : Nat) (calls : List Call) (x : Call) :
    inTimeFrom begun (calls ++ [x]) =
      inTimeFrom begun calls ++ if x.isInTime (begun + begins calls) = true then [x] else [] := by
  induction calls generalizing begun with
  | nil => rfl
  | cons y ys ih =>
      -- The first call is counted either before the others or among them.
      have hcount : (if y.isBegin = true then begun + 1 else begun) + begins ys =
          begun + begins (y :: ys) := by
        rw [begins, begins, List.countP_cons]
        split <;> omega
      rw [List.cons_append, inTimeFrom, ih, hcount, inTimeFrom]
      split <;> rfl

theorem inTime_concat (calls : List Call) (x : Call) :
    inTime (calls ++ [x]) = inTime calls ++ if x.isInTime (begins calls) = true then [x] else [] := by
  rw [inTime, inTimeFrom_concat, Nat.zero_add, inTime]

/-- A begin is in time. -/
theorem inTime_concat_begin (calls : List Call) (c : Criteria) :
    inTime (calls ++ [.begin c]) = inTime calls ++ [.begin c] :=
  inTime_concat calls (.begin c)

/-- A completion under the newest token is in time. -/
theorem inTime_concat_newest (calls : List Call) (o : Outcome) :
    inTime (calls ++ [.complete (begins calls) o]) =
      inTime calls ++ [.complete (begins calls) o] := by
  have hin : Call.isInTime (begins calls) (.complete (begins calls) o) = true := decide_eq_true rfl
  rw [inTime_concat, if_pos hin]

/-- A completion under any other token is not. -/
theorem inTime_concat_of_ne {calls : List Call} {token : Nat} (h : token ≠ begins calls)
    (o : Outcome) : inTime (calls ++ [.complete token o]) = inTime calls := by
  have hnot : ¬ Call.isInTime (begins calls) (.complete token o) = true := fun he =>
    h (of_decide_eq_true he)
  rw [inTime_concat, if_neg hnot, List.append_nil]

namespace Machine

/-! ## The machine in terms of its calls -/

/-- What calls make **of** a machine, in terms of the calls alone. -/
def ofCalls (defaults : Criteria) (calls : List Call) : Machine where
  defaults := defaults
  -- The last criteria that a query was begun for.
  criteria := (calls.filterMap Call.criteria?).getLast?.getD defaults
  latest := begins calls
  -- Nothing came in time after the last begin.
  loading := (inTime calls).getLast?.any Call.isBegin
  -- The last page that came in time.
  result := ((inTime calls).filterMap Call.page?).getLast?.getD ⟨[], 0⟩
  -- What the last outcome that came in time says.
  lastError := ((inTime calls).filterMap Call.outcome?).getLast?.bind errorText

variable (defaults : Criteria) (calls : List Call)

/-- A begin changes the criteria and awaits an outcome. -/
theorem ofCalls_concat_begin (c : Criteria) :
    ofCalls defaults (calls ++ [.begin c]) = (ofCalls defaults calls).begin c := by
  simp only [ofCalls, begin, inTime_concat_begin, begins_concat, getLast?_filterMap_concat,
    List.getLast?_concat]
  rfl

/-- An outcome in time ends the wait; a page replaces the one before, and a failure leaves it. -/
theorem ofCalls_concat_newest (o : Outcome) :
    ofCalls defaults (calls ++ [.complete (begins calls) o]) =
      (ofCalls defaults calls).complete (begins calls) o := by
  cases o with
  | ok page =>
      simp only [ofCalls, complete, if_pos, inTime_concat_newest, begins_concat,
        getLast?_filterMap_concat, List.getLast?_concat]
      rfl
  | error e =>
      simp only [ofCalls, complete, if_pos, inTime_concat_newest, begins_concat,
        getLast?_filterMap_concat, List.getLast?_concat]
      rfl

/-- An outcome that is late, early or unasked for changes nothing. -/
theorem ofCalls_concat_of_ne {token : Nat} (h : token ≠ begins calls) (o : Outcome) :
    ofCalls defaults (calls ++ [.complete token o]) = ofCalls defaults calls := by
  simp only [ofCalls, inTime_concat_of_ne h, begins_concat, getLast?_filterMap_concat]
  rfl

/-- **Calls make of a machine what they say**, one after the other. -/
theorem callAll_eq : (initial defaults).callAll calls = ofCalls defaults calls := by
  induction calls using List.reverseRecOn with
  | nil => rfl
  | append_singleton calls x ih =>
      rw [callAll_concat, ih]
      cases x with
      | begin c => exact (ofCalls_concat_begin defaults calls c).symm
      | complete token o =>
          -- Only the token decides: the machine compares it with the number of queries begun.
          by_cases ht : token = begins calls
          · subst ht
            exact (ofCalls_concat_newest defaults calls o).symm
          · rw [ofCalls_concat_of_ne defaults calls ht]
            exact complete_of_ne ht o

/-- The newest token is the number of queries begun. -/
theorem latest_callAll : ((initial defaults).callAll calls).latest = begins calls := by
  rw [callAll_eq, ofCalls]

/-- The tokens issued are the numbers from one upwards. -/
theorem tokens_replies :
    ((initial defaults).replies calls).filterMap Reply.token? = List.range' 1 (begins calls) := by
  induction calls using List.reverseRecOn with
  | nil => rfl
  | append_singleton calls x ih =>
      rw [replies_concat, List.filterMap_append, ih, begins_concat]
      cases x with
      | begin c =>
          have htoken : (((initial defaults).callAll calls).begin c).latest = begins calls + 1 :=
            congrArg (· + 1) (latest_callAll defaults calls)
          rw [call, htoken, if_pos (by rfl), List.range'_concat, Nat.one_mul, Nat.add_comm 1]
          rfl
      | complete token o => exact List.append_nil _

/-- **Calls that are not in time could as well not be made.** -/
theorem callAll_inTime :
    (initial defaults).callAll (inTime calls) = (initial defaults).callAll calls := by
  induction calls using List.reverseRecOn with
  | nil => rfl
  | append_singleton calls x ih =>
      cases x with
      | begin c => rw [inTime_concat_begin, callAll_concat, ih, callAll_concat]
      | complete token o =>
          by_cases ht : token = begins calls
          · subst ht
            rw [inTime_concat_newest, callAll_concat, ih, callAll_concat]
          · rw [inTime_concat_of_ne ht, ih, callAll_eq, callAll_eq, ofCalls_concat_of_ne _ _ ht]

/-- **What a list machine does on any calls**, under tokens of any kind. A query gets as its token the
number of queries begun, and so a greater one than all before it; it has 64 bits as long as fewer than
2⁶⁴ calls are made. An outcome is stale iff its token is not the number of queries begun so far, and
then it leaves the machine as it is; so the stale ones could all be left out. In the end the criteria
are the last ones begun, or the defaults; the result is the last page that came in time, or nothing;
the error is that of the last outcome that came in time, if it failed; and an outcome is awaited iff
the last call in time is a begin. -/
theorem callAll_closed_form (defaults : Criteria) (calls : List Call) :
    let m := (initial defaults).callAll calls
    ((initial defaults).replies calls).filterMap Reply.token? = List.range' 1 (begins calls) ∧
      (∀ c, (m.call (.begin c)).2 = .issued (begins calls + 1)) ∧
      (∀ token o, (m.call (.complete token o)).2 = .became .stale ↔ token ≠ begins calls) ∧
      (∀ token o, token ≠ begins calls → (m.call (.complete token o)).1 = m) ∧
      (initial defaults).callAll (inTime calls) = m ∧
      m.criteria = (calls.filterMap Call.criteria?).getLast?.getD defaults ∧
      m.result = ((inTime calls).filterMap Call.page?).getLast?.getD ⟨[], 0⟩ ∧
      m.lastError = ((inTime calls).filterMap Call.outcome?).getLast?.bind errorText ∧
      (m.loading = true ↔ ∃ c, (inTime calls).getLast? = some (.begin c)) := by
  intro m
  have hm : m = ofCalls defaults calls := callAll_eq defaults calls
  have hlatest : m.latest = begins calls := latest_callAll defaults calls
  refine ⟨tokens_replies defaults calls, fun c => ?_, fun token o => ?_, fun token o ht => ?_,
    callAll_inTime defaults calls, ?_, ?_, ?_, ?_⟩
  · exact congrArg (fun n => Reply.issued (n + 1)) hlatest
  · rw [call, Reply.became.injEq, classify_eq_stale_iff, hlatest]
  · exact complete_of_ne (hlatest ▸ ht) o
  · rw [hm, ofCalls]
  · rw [hm, ofCalls]
  · rw [hm, ofCalls]
  · have hloading : m.loading = (inTime calls).getLast?.any Call.isBegin := by rw [hm, ofCalls]
    rw [hloading, Option.any_eq_true]
    constructor
    · rintro ⟨x, hx, hbegin⟩
      cases x with
      | begin c => exact ⟨c, hx⟩
      | complete token o => cases hbegin
    · rintro ⟨c, hc⟩
      exact ⟨.begin c, hc, rfl⟩

/-- An outcome before the first query is in time under token zero; one under a token still to come is
stale, and the query that gets this token later waits for its own. -/
example :
    let m := (initial .standard).callAll [.complete 0 (.ok ⟨[], 7⟩), .begin .standard,
      .complete 2 (.ok ⟨[], 9⟩), .complete 1 (.error (.unavailable "503")), .begin .standard]
    m.latest = 2 ∧ m.loading = true ∧ m.result.count = 7 ∧
      m.lastError = some (CallFailure.unavailable "503").message := by
  decide

end Machine

end Lookout.Listing
