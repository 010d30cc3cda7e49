import Lookout.Proofs.Listing.Trace

/-! # Fresh views
Answers may come back in any order, and late ones may fail. This file shows that a subscriber is
never misled by that: **what is published is settled by the journal alone**, through the highest
token issued (`highest`) and the newest success that was in time (`timelyPage`).

* `Shown`: the machine's state in terms of the journal; kept by every move.
* `Trace.published_view_spec`: the same for the published view, which never lags behind. -/

namespace Lookout.Listing

/-- The page a view shows: its rows and the number of all matches. -/
def View.page (v : View) : Page := ⟨v.rows, v.totalCount⟩

/-- The **timely page** of a journal: the page of the newest success whose token was the highest one
when it came in; the empty page if there was none. -/
def timelyPage : Journal → Page
  | [] => ⟨[], 0⟩
  | .answered t (.ok p) :: j => if t = highest j then p else timelyPage j
  | .answered _ (.error _) :: j => timelyPage j
  | .asked _ _ :: j => timelyPage j
  | .published _ :: j => timelyPage j

@[simp] theorem timelyPage_ok (t : Nat) (p : Page) (j : Journal) :
    timelyPage (.answered t (.ok p) :: j) = if t = highest j then p else timelyPage j := rfl

/-- A late outcome leaves the timely page alone. -/
theorem timelyPage_of_ne {t : Nat} {j : Journal} (h : t ≠ highest j) (o : Outcome) :
    timelyPage (.answered t o :: j) = timelyPage j := by
  cases o with
  | ok p => rw [timelyPage_ok, if_neg h]
  | error f => rfl

/-- The timely page comes out of one response as a whole, unless it is empty. -/
theorem timelyPage_mem (j : Journal) :
    timelyPage j = ⟨[], 0⟩ ∨ ∃ t, .answered t (.ok (timelyPage j)) ∈ j := by
  induction j with
  | nil => exact .inl rfl
  | cons x j ih =>
      -- An entry that is no timely success leaves the page as it was.
      have keep : timelyPage (x :: j) = timelyPage j → timelyPage (x :: j) = ⟨[], 0⟩ ∨
          ∃ t, .answered t (.ok (timelyPage (x :: j))) ∈ x :: j := by
        intro hx
        rw [hx]
        exact ih.imp_right fun ⟨t, ht⟩ => ⟨t, List.mem_cons_of_mem _ ht⟩
      cases x with
      | published c => exact keep rfl
      | asked t c => exact keep rfl
      | answered t o =>
          by_cases ht : t = highest j
          · cases o with
            | ok p =>
                rw [timelyPage_ok, if_pos ht]
                exact .inr ⟨t, List.mem_cons_self⟩
            | error f => exact keep rfl
          · exact keep (timelyPage_of_ne ht o)

/-! ## The machine and the journal -/

/-- What a view says about an outcome: nothing of a success, and the message of a failure. -/
def errorText : Outcome → Option String
  | .ok _ => none
  | .error f => some f.message

/-- **Shown**: the machine's state in terms of the journal. -/
structure Shown (j : Journal) (m : Machine) : Prop where
  /-- The criteria are those of the newest query. -/
  asked_latest : .asked m.latest m.criteria ∈ j
  /-- Nothing is awaited iff the newest query was answered. -/
  loading_iff : m.loading = false ↔ ∃ o, .answered m.latest o ∈ j
  /-- Once the newest query was answered, the error is that of its outcome. -/
  lastError_eq : ∀ {o}, .answered m.latest o ∈ j → m.lastError = errorText o
  /-- Once the newest query succeeded, the result is its page. -/
  result_eq_of_ok : ∀ {p}, .answered m.latest (.ok p) ∈ j → m.result = p
  /-- The result is always the timely page. -/
  result_eq : m.result = timelyPage j

namespace Shown

variable {j : Journal} {m : Machine}

/-- Criteria that are published do not touch the machine. -/
theorem publish (h : Shown j m) (c : Criteria) : Shown (.published c :: j) m := by
  have hmem : ∀ o, .answered m.latest o ∈ Entry.published c :: j ↔ .answered m.latest o ∈ j := by
    intro o
    simp
  refine ⟨List.mem_cons_of_mem _ h.asked_latest, ?_, ?_, ?_, h.result_eq⟩
  · simp only [hmem]
    exact h.loading_iff
  · intro o ha
    exact h.lastError_eq ((hmem o).mp ha)
  · intro p ha
    exact h.result_eq_of_ok ((hmem _).mp ha)

/-- A query with a token nobody has used is awaited, and keeps error and result. -/
theorem begin (h : Shown j m) (hnew : ∀ o, .answered (m.latest + 1) o ∉ j) (c : Criteria) :
    Shown (.asked (m.latest + 1) c :: j) (m.begin c) := by
  have hmem : ∀ o, .answered (m.begin c).latest o ∉ Entry.asked (m.latest + 1) c :: j := by
    intro o
    simpa [Machine.begin] using hnew o
  refine ⟨List.mem_cons_self, ?_, ?_, ?_, h.result_eq⟩
  · constructor
    · intro hl
      cases hl
    · rintro ⟨o, ha⟩
      exact absurd ha (hmem o)
  · intro o ha
    exact absurd ha (hmem o)
  · intro p ha
    exact absurd ha (hmem _)

/-- A stale outcome changes neither the machine nor what the journal says about it. -/
theorem complete_stale (h : Shown j m) {t : Nat} (ht : t ≠ m.latest) (hj : highest j = m.latest)
    (o : Outcome) : Shown (.answered t o :: j) (m.complete t o) := by
  have hmem : ∀ o', .answered m.latest o' ∈ Entry.answered t o :: j ↔
      .answered m.latest o' ∈ j := by
    intro o'
    simp [Ne.symm ht]
  rw [Machine.complete_of_ne ht]
  refine ⟨List.mem_cons_of_mem _ h.asked_latest, ?_, ?_, ?_, ?_⟩
  · simp only [hmem]
    exact h.loading_iff
  · intro o' ha
    exact h.lastError_eq ((hmem o').mp ha)
  · intro p ha
    exact h.result_eq_of_ok ((hmem _).mp ha)
  · rw [timelyPage_of_ne (hj ▸ ht)]
    exact h.result_eq

/-- The outcome of the newest query is taken over as a whole. -/
theorem complete_latest (h : Shown j m) (hj : highest j = m.latest)
    (hfirst : ∀ o, .answered m.latest o ∉ j) (o : Outcome) :
    Shown (.answered m.latest o :: j) (m.complete m.latest o) := by
  have hmem : ∀ o', .answered m.latest o' ∈ Entry.answered m.latest o :: j → o' = o := by
    intro o' ha
    rcases List.mem_cons.mp ha with he | ha
    · exact (Entry.answered.inj he).2
    · exact absurd ha (hfirst o')
  have hself : Entry.answered m.latest o ∈ Entry.answered m.latest o :: j := List.mem_cons_self
  cases o with
  | ok p =>
      simp only [Machine.complete, if_pos]
      refine ⟨List.mem_cons_of_mem _ h.asked_latest, ⟨fun _ => ⟨_, hself⟩, fun _ => rfl⟩,
        ?_, ?_, ?_⟩
      · intro o' ha
        rw [hmem o' ha]
        rfl
      · intro p' ha
        exact (Except.ok.inj (hmem _ ha)).symm
      · rw [timelyPage_ok, if_pos hj.symm]
  | error f =>
      simp only [Machine.complete, if_pos]
      refine ⟨List.mem_cons_of_mem _ h.asked_latest, ⟨fun _ => ⟨_, hself⟩, fun _ => rfl⟩,
        ?_, ?_, ?_⟩
      · intro o' ha
        rw [hmem o' ha]
        rfl
      · intro p' ha
        cases hmem _ ha
      · exact h.result_eq

end Shown

/-- The machine is shown by the journal along every trace. -/
theorem Trace.shown {s : Store} {j : Journal} {es : List Event} {l : Listing}
    (h : Trace s j es l) : Shown j l.engine.machine := by
  induction h using Trace.moves with
  | start =>
      refine ⟨List.mem_cons_self, ?_, ?_, ?_, rfl⟩
      · simp [Listing.start, Engine.spawn, Engine.ask, Machine.begin]
      · intro o ha
        simp at ha
      · intro p ha
        simp at ha
  | mutate _ _ _ ih => exact ih.publish _
  | wake h _ ih => exact ih.begin h.numbered.not_answered_succ _
  | @respond j es l h t o hm ih =>
      obtain ⟨-, c, hf⟩ := enabled_respond_iff.mp hm
      have hj := h.numbered.highest_eq
      show Shown _ (l.engine.respond t o).machine
      rw [machine_respond]
      by_cases ht : t = l.engine.machine.latest
      · subst ht
        exact ih.complete_latest hj (h.numbered.not_answered hf) o
      · exact ih.complete_stale ht hj o
  | dropStore _ _ ih => exact ih
  | close _ _ ih => exact ih
  | deactivate _ _ ih => exact ih

/-! ## The published view -/

/-- **Out-of-order safety**: whatever the schedule and the outcomes, the published view is the
machine's; it has the criteria of the highest token and awaits exactly that token's outcome; with
that outcome in, it shows its page or its message; and its rows and count are always those of the
timely page, which is one response or the empty page. -/
theorem Trace.published_view_spec {s : Store} {j : Journal} {es : List Event} {l : Listing}
    (h : Trace s j es l) :
    l.engine.published = l.engine.machine.view ∧
      (∀ c, .asked (highest j) c ∈ j ↔ c = l.engine.published.criteria) ∧
      (l.engine.published.loading = false ↔ ∃ o, .answered (highest j) o ∈ j) ∧
      (∀ o o', .answered (highest j) o ∈ j → .answered (highest j) o' ∈ j → o = o') ∧
      (l.engine.published.loading = false → l.engine.published.lastError = none →
        .answered (highest j) (.ok l.engine.published.page) ∈ j) ∧
      (l.engine.published.loading = false → ∀ text, l.engine.published.lastError = some text →
        ∃ f, .answered (highest j) (.error f) ∈ j ∧ text = f.message) ∧
      l.engine.published.page = timelyPage j ∧
      (timelyPage j = ⟨[], 0⟩ ∨ ∃ t, .answered t (.ok (timelyPage j)) ∈ j) := by
  have hm := h.shown
  rw [h.numbered.highest_eq, h.published_eq_view]
  refine ⟨rfl, ?_, hm.loading_iff, fun o o' => h.answered_unique, ?_, ?_, hm.result_eq,
    timelyPage_mem j⟩
  · intro c
    constructor
    · intro ha
      exact h.asked_unique ha hm.asked_latest
    · rintro rfl
      exact hm.asked_latest
  · intro hl hnone
    obtain ⟨o, ho⟩ := hm.loading_iff.mp hl
    have herr : errorText o = none := (hm.lastError_eq ho).symm.trans hnone
    cases o with
    | ok p =>
        have hp : l.engine.machine.view.page = p := hm.result_eq_of_ok ho
        rw [hp]
        exact ho
    | error f => cases herr
  · intro hl text htext
    obtain ⟨o, ho⟩ := hm.loading_iff.mp hl
    have herr : errorText o = some text := (hm.lastError_eq ho).symm.trans htext
    cases o with
    | ok p => cases herr
    | error f => exact ⟨f, ho, (Option.some.inj herr).symm⟩

/-- The newer of two queries is answered first, and the older one fails after that: the view keeps
the page of the newer one. -/
theorem published_view_after_late_failure :
    ∃ j es l, Trace (.ofDefaults .standard) j es l ∧
      .answered 1 (.error (.unavailable "503")) ∈ j ∧ highest j = 2 ∧
      l.engine.published.loading = false ∧ l.engine.published.lastError = none ∧
      .answered (highest j) (.ok l.engine.published.page) ∈ j ∧
      l.engine.published.page = ⟨[], 7⟩ := by
  have asked := (Trace.start (s := .ofDefaults .standard)).mutate (.search "u") rfl |>.wake rfl
  have h := (asked.respond 2 (.ok ⟨[], 7⟩) rfl).respond 1 (.error (.unavailable "503")) rfl
  obtain ⟨-, -, -, -, hshown, -, hpage, -⟩ := h.published_view_spec
  exact ⟨_, _, _, h, List.mem_cons_self, rfl, rfl, rfl, hshown rfl rfl, hpage⟩

end Lookout.Listing
