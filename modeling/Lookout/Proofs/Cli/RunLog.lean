import Mathlib.Data.List.Chain
import Lookout.Cli.Watch

/-! # The log of a watched run
A watch shows a run again whenever a refresh succeeded, and each time only the lines of its log that
were not there before. What was there before is a number of lines that it keeps from one report to
the next, whatever failed or was skipped in between. This file shows that a log which only grows is
printed line by line, each line once.

* `Prints`: the blocks of log lines that are printed for states that come to be reported.
* `newBlocks`: what these blocks are, in terms of the logs alone.
* `log_printed_once`: the whole statement, for any states that are handed over, and for a watch that
  looks at states and hands over those that bring news. -/

namespace Lookout.Cli

open Polling (State)

variable {limit : Option UInt64} {p : Progress} {s : State} {ss : List State} {r : Run}

/-! ## What is shown -/

/-- The run that a watch **shows** for a state: the one it fetched last, unless the newest fetch
failed. -/
def shown? (s : State) : Option Run :=
  match s.lastError with
  | some _ => none
  | none => s.lastGood

/-- The logs of the runs that are shown for some states. -/
def shownLogs (ss : List State) : List (List String) := (ss.filterMap shown?).map (·.logs)

/-- The lines of a run above its log. -/
def linesAbove (r : Run) : List String :=
  ((if r.name.isEmpty then "task run" else r.name) ++ " [" ++ r.taskId ++ "/" ++ r.runId ++ "]: "
      ++ r.status.name)
    :: (r.startTime.map fun t => "  started:  " ++ t.display).toList
    ++ (r.endTime.map fun t => "  finished: " ++ t.display).toList

/-- The lines of a run below its log. -/
def linesBelow (r : Run) : List String := (r.error.map ("  error: " ++ ·)).toList

/-- A run as it is shown with a **block** of its log. -/
def shownWith (r : Run) (block : List String) : List Output :=
  (linesAbove r ++ block.map ("  | " ++ ·) ++ linesBelow r).map fun l => .answer (l ++ "\n")

/-- A watch **prints** blocks of log lines about states that are handed to it one after the other: a
block for each run that it shows, and nothing of its answer for any other state. -/
inductive Prints (limit : Option UInt64) : Progress → List State → List (List String) → Prop
  /-- No state is left. -/
  | nil {p : Progress} : Prints limit p [] []
  /-- A run is shown with the next block. -/
  | run {p : Progress} {s : State} {r : Run} {ss : List State} {block : List String}
      {blocks : List (List String)} (hs : shown? s = some r)
      (hout : (p.report limit s).2.1 = shownWith r block)
      (h : Prints limit (p.report limit s).1 ss blocks) : Prints limit p (s :: ss) (block :: blocks)
  /-- No run is shown. -/
  | other {p : Progress} {s : State} {ss : List State} {blocks : List (List String)}
      (hs : shown? s = none) (hout : ∀ text, .answer text ∉ (p.report limit s).2.1)
      (h : Prints limit (p.report limit s).1 ss blocks) : Prints limit p (s :: ss) blocks

/-- The block can be read off a run that is shown. -/
theorem shownWith_injective (r : Run) : Function.Injective (shownWith r) := by
  intro block other h
  have hline : ∀ l m : String, Output.answer (l ++ "\n") = .answer (m ++ "\n") → l = m :=
    fun _ _ hl => (String.append_left_inj "\n").mp (Output.answer.inj hl)
  have hmark : ∀ l m : String, "  | " ++ l = "  | " ++ m → l = m :=
    fun _ _ hl => (String.append_right_inj "  | ").mp hl
  have hlines := (List.map_inj_right hline).mp h
  have hlog := List.append_cancel_left (List.append_cancel_right hlines)
  exact (List.map_inj_right hmark).mp hlog

/-! ## One report -/

/-- The new lines of a log are what follows as many lines as there were before, or nothing if it has
fewer now. -/
theorem append_newLogs (n : Nat) (log : List String) :
    ∃ skipped, log = skipped ++ newLogs n log ∧ skipped.length = min n log.length :=
  ⟨log.take (min n log.length), (List.take_append_drop _ log).symm,
    by rw [List.length_take, Nat.min_assoc, Nat.min_self]⟩

/-- The new lines of a log that has grown. -/
theorem append_newLogs_of_prefix {before log : List String} (h : before <+: log) :
    before ++ newLogs before.length log = log := by
  rw [newLogs, Nat.min_eq_left h.length_le]
  exact List.prefix_iff_eq_append.mp h

namespace Progress

/-- A run is shown with the new lines of its log, and its log counts as printed. -/
theorem report_of_shown (limit : Option UInt64) (p : Progress) (hs : shown? s = some r) :
    (p.report limit s).2.1 = shownWith r (newLogs p.printedLogs r.logs) ∧
      (p.report limit s).1.printedLogs = r.logs.length := by
  unfold shown? at hs
  unfold report
  cases herror : s.lastError with
  | some message => simp [herror] at hs
  | none =>
      rw [herror] at hs
      rw [show s.lastGood = some r from hs]
      exact ⟨rfl, rfl⟩

/-- If no run is shown, nothing of the answer is given out, and no line more counts as printed. -/
theorem report_of_not_shown (limit : Option UInt64) (p : Progress) (hs : shown? s = none) :
    (∀ text, .answer text ∉ (p.report limit s).2.1) ∧
      (p.report limit s).1.printedLogs = p.printedLogs := by
  unfold shown? at hs
  unfold report
  cases herror : s.lastError with
  | some message => cases s.lastGood <;> simp
  | none =>
      rw [herror] at hs
      simp [show s.lastGood = none from hs]

end Progress

/-! ## All reports -/

/-- The **new blocks** of logs that come one after the other, after so many printed lines. -/
def newBlocks : Nat → List (List String) → List (List String)
  | _, [] => []
  | n, log :: logs => newLogs n log :: newBlocks log.length logs

/-- Each log has one block. -/
theorem length_newBlocks (n : Nat) (logs : List (List String)) :
    (newBlocks n logs).length = logs.length := by
  induction logs generalizing n with
  | nil => rfl
  | cons log logs ih => exact congrArg (· + 1) (ih log.length)

/-- The block of a log depends on how long the log before it is. -/
theorem getElem?_newBlocks {before log : List String} {first : List String}
    {logs : List (List String)} {i : Nat} (hbefore : (first :: logs)[i]? = some before)
    (hlog : logs[i]? = some log) :
    (newBlocks first.length logs)[i]? = some (newLogs before.length log) := by
  induction logs generalizing first i with
  | nil => cases hlog
  | cons next logs ih =>
      cases i with
      | zero =>
          obtain rfl := Option.some.inj hbefore
          obtain rfl := Option.some.inj hlog
          rfl
      | succ i => exact ih hbefore hlog

/-- As long as logs only grow, their blocks make up the last of them. -/
theorem flatten_newBlocks {first log : List String} {logs : List (List String)} {i : Nat}
    (hgrow : (first :: logs.take (i + 1)).IsChain (· <+: ·)) (hlog : logs[i]? = some log) :
    first ++ ((newBlocks first.length logs).take (i + 1)).flatten = log := by
  induction logs generalizing first i with
  | nil => cases hlog
  | cons next logs ih =>
      rw [List.take_succ_cons, List.isChain_cons_cons] at hgrow
      -- What is printed of the next log completes the one before to it.
      rw [newBlocks, List.take_succ_cons, List.flatten_cons, ← List.append_assoc,
        append_newLogs_of_prefix hgrow.1]
      cases i with
      | zero =>
          obtain rfl := Option.some.inj hlog
          rw [List.take_zero, List.flatten_nil, List.append_nil]
      | succ i => exact ih hgrow.2 hlog

/-- A run that is shown adds its log to the logs that are shown. -/
theorem shownLogs_cons_of_shown (hs : shown? s = some r) :
    shownLogs (s :: ss) = r.logs :: shownLogs ss := by
  rw [shownLogs, List.filterMap_cons_some hs, List.map_cons]
  rfl

/-- A state for which no run is shown adds nothing. -/
theorem shownLogs_cons_of_not_shown (hs : shown? s = none) :
    shownLogs (s :: ss) = shownLogs ss := by
  rw [shownLogs, List.filterMap_cons_none hs]
  rfl

/-- The new blocks are printed, whatever states are handed over. -/
theorem prints_newBlocks (limit : Option UInt64) (p : Progress) (ss : List State) :
    Prints limit p ss (newBlocks p.printedLogs (shownLogs ss)) := by
  induction ss generalizing p with
  | nil => exact .nil
  | cons s ss ih =>
      have hrest := ih (p.report limit s).1
      cases hs : shown? s with
      | none =>
          -- The number of printed lines is left alone, so the next block is the same as before.
          obtain ⟨hout, hprinted⟩ := Progress.report_of_not_shown limit p hs
          rw [hprinted] at hrest
          rw [shownLogs_cons_of_not_shown hs]
          exact .other hs hout hrest
      | some r =>
          obtain ⟨hout, hprinted⟩ := Progress.report_of_shown limit p hs
          rw [hprinted] at hrest
          rw [shownLogs_cons_of_shown hs]
          exact .run hs hout hrest

/-- Nothing else is printed of a log. -/
theorem Prints.eq_newBlocks {blocks : List (List String)} (h : Prints limit p ss blocks) :
    blocks = newBlocks p.printedLogs (shownLogs ss) := by
  induction h with
  | nil => rfl
  | run hs hout _ ih =>
      obtain ⟨hshown, hprinted⟩ := Progress.report_of_shown limit _ hs
      rw [hprinted] at ih
      rw [shownLogs_cons_of_shown hs, newBlocks, ← ih,
        shownWith_injective _ (hout.symm.trans hshown)]
  | other hs _ _ ih =>
      rw [(Progress.report_of_not_shown limit _ hs).2] at ih
      rw [shownLogs_cons_of_not_shown hs, ih]

/-! ## Looking and reporting -/

/-- The states that bring **news** to a watch that has seen so many fetches come to an end: those in
which it is another number of fetches than in the state before. -/
def newsIn (seen : Nat) : List State → List State
  | [] => []
  | s :: ss => if s.completed = seen then newsIn seen ss else s :: newsIn s.completed ss

namespace Progress

/-- What is given out about states that are handed over one after the other. -/
def reports (limit : Option UInt64) (p : Progress) : List State → List Output
  | [] => []
  | s :: ss => (p.report limit s).2.1 ++ (p.report limit s).1.reports limit ss

/-- A report does not depend on how many fetches were seen, and leaves that number alone. -/
theorem report_seen (limit : Option UInt64) (p : Progress) (n : Nat) (s : State) :
    { p with seen := n }.report limit s =
      ({ (p.report limit s).1 with seen := n }, (p.report limit s).2) := by
  unfold report
  cases s.lastError <;> cases s.lastGood <;> rfl

/-- Reports do not depend on how many fetches were seen. -/
theorem reports_seen (limit : Option UInt64) (p : Progress) (n : Nat) (ss : List State) :
    { p with seen := n }.reports limit ss = p.reports limit ss := by
  induction ss generalizing p with
  | nil => rfl
  | cons s ss ih => simp only [reports, report_seen, ih]

/-- A watch that looks at states gives out the reports about those that bring news, in order, and
leaves some out only after it has come to its end. -/
theorem follow_eq_reports (limit : Option UInt64) (p : Progress) (ss : List State) :
    ∃ handed, handed <+: newsIn p.seen ss ∧ (p.follow limit ss).1 = p.reports limit handed ∧
      ((p.follow limit ss).2 = none → handed = newsIn p.seen ss) := by
  induction ss generalizing p with
  | nil => exact ⟨[], List.nil_prefix, rfl, fun _ => rfl⟩
  | cons s ss ih =>
      by_cases hseen : s.completed = p.seen
      · obtain ⟨handed, hhanded, hout, hall⟩ := ih p
        refine ⟨handed, ?_, ?_, ?_⟩
        · rw [newsIn, if_pos hseen]
          exact hhanded
        · simp only [follow, observe, if_pos hseen, List.nil_append, hout]
        · rw [newsIn, if_pos hseen]
          simpa only [follow, observe, if_pos hseen] using hall
      · rcases hreport : p.report limit s with ⟨q, out, verdict⟩
        rw [newsIn, if_neg hseen]
        cases verdict with
        | some v =>
            -- The watch ends here and looks at no further state.
            refine ⟨[s], ?_, ?_, ?_⟩
            · exact List.cons_prefix_cons.mpr ⟨rfl, List.nil_prefix⟩
            · simp only [follow, observe, if_neg hseen, report_seen, hreport, reports,
                List.append_nil]
            · simp [follow, observe, if_neg hseen, report_seen, hreport]
        | none =>
            obtain ⟨handed, hhanded, hout, hall⟩ := ih { q with seen := s.completed }
            rw [reports_seen] at hout
            refine ⟨s :: handed, ?_, ?_, ?_⟩
            · exact List.cons_prefix_cons.mpr ⟨rfl, hhanded⟩
            · simp only [follow, observe, if_neg hseen, report_seen, hreport, reports, hout]
            · intro hnone
              simp only [follow, observe, if_neg hseen, report_seen, hreport] at hnone
              rw [hall hnone]

end Progress

/-! ## The log in the answer -/

/-- **The lines of a log are printed once.** Whatever states are handed over to be reported, with
failures among them and with others left out, there is just one way to read the answer as runs with
blocks of their logs: a block for each run that is shown, and no line of the answer for any other
state. The block of a run is its log without as many lines as the log shown before it had, or empty
if the log has got shorter; the first has none before it. So as long as the logs only grow, the
blocks up to any run make up its log. A watch that looks at states gives out such reports about
those that bring news, until it ends. -/
theorem log_printed_once (limit : Option UInt64) :
    (∀ ss, ∃! blocks, Prints limit .initial ss blocks) ∧
      (∀ (ss : List State) (blocks : List (List String)), Prints limit .initial ss blocks →
        blocks.length = (shownLogs ss).length ∧
        (∀ (i : Nat) (before log : List String), ([] :: shownLogs ss)[i]? = some before →
          (shownLogs ss)[i]? = some log → ∃ skipped block, blocks[i]? = some block ∧
            log = skipped ++ block ∧ skipped.length = min before.length log.length) ∧
        ∀ (i : Nat) (log : List String), (shownLogs ss)[i]? = some log →
          ((shownLogs ss).take (i + 1)).IsChain (· <+: ·) → (blocks.take (i + 1)).flatten = log) ∧
      ∀ ss, ∃ handed, handed <+: newsIn 0 ss ∧
        (Progress.initial.follow limit ss).1 = Progress.initial.reports limit handed ∧
        ((Progress.initial.follow limit ss).2 = none → handed = newsIn 0 ss) := by
  refine ⟨?_, ?_, Progress.follow_eq_reports limit .initial⟩
  · intro ss
    exact ⟨_, prints_newBlocks limit .initial ss, fun _ h => h.eq_newBlocks⟩
  · intro ss blocks h
    -- Before the first log nothing is printed, as if the log before it were empty.
    obtain rfl : blocks = newBlocks ([] : List String).length (shownLogs ss) := h.eq_newBlocks
    refine ⟨length_newBlocks _ _, ?_, ?_⟩
    · intro i before log hbefore hlog
      obtain ⟨skipped, hskipped, hlength⟩ := append_newLogs before.length log
      exact ⟨skipped, _, getElem?_newBlocks hbefore hlog, hskipped, hlength⟩
    · intro i log hlog hgrow
      have hchain : ([] :: (shownLogs ss).take (i + 1)).IsChain (· <+: ·) :=
        List.isChain_cons.mpr ⟨fun _ _ => List.nil_prefix, hgrow⟩
      exact flatten_newBlocks hchain hlog

/-- A run whose log grows from one line to three, while a refresh fails and another one is skipped,
and is cut down to one line in the end: the three lines are printed once, and none of them again. -/
theorem log_printed_once_after_failure :
    ∃ ss blocks, ss.map (·.completed) = [1, 2, 4, 5] ∧ Prints none .initial ss blocks ∧
      blocks = [["one"], ["two", "three"], []] ∧
      (blocks.take 2).flatten = ["one", "two", "three"] := by
  let nightly (log : List String) : Run := ⟨"t", "r", "nightly", .running, none, none, log, none⟩
  let ss : List State := [⟨.idle, some (nightly ["one"]), none, 1⟩,
    ⟨.fetching, some (nightly ["one"]), some "Backend unavailable: 503", 2⟩,
    ⟨.idle, some (nightly ["one", "two", "three"]), none, 4⟩,
    ⟨.idle, some (nightly ["three"]), none, 5⟩]
  have hprints : Prints none .initial ss [["one"], ["two", "three"], []] :=
    .run rfl rfl <| .other rfl (by simp [Progress.report]) <| .run rfl rfl <| .run rfl rfl .nil
  obtain ⟨-, hlog, -⟩ := log_printed_once none
  have hgrow : ((shownLogs ss).take 2).IsChain (· <+: ·) :=
    List.isChain_pair.mpr ⟨["two", "three"], rfl⟩
  exact ⟨ss, _, rfl, hprints, rfl, (hlog ss _ hprints).2.2 1 ["one", "two", "three"] rfl hgrow⟩

end Lookout.Cli
