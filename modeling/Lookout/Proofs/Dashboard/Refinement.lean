import Lookout.Proofs.Dashboard.Runs
import Lookout.Proofs.Listing.Freshness

/-! # What a dashboard shows of its snapshot
A dashboard asks its backend again and again, and looks at the answers in whatever order they come.
This file shows that nothing of that can be seen once it has come to rest: **a view at rest is a
function of the snapshot and of the view's own criteria**, and so is the panel.

* `AnsweredBy`: a journal in which every outcome is what a function says to the criteria of its
  query. What a view at rest then shows is that function (`Trace.view_of_answeredBy`).
* `Filled`: a loader in which every list that is not awaited is the one of its kind.
* `Faithful`: both, for a dashboard that was opened over a backend; kept by every move.
* `LeadsTo.reflects_snapshot`: the whole statement. -/

namespace Lookout

/-! ## Journals with a fixed function for answers -/

namespace Listing

/-- A journal is **answered by** a function if every outcome in it is what the function says to the
criteria of the query. -/
def AnsweredBy (ask : Criteria → Page) (j : Journal) : Prop :=
  ∀ {t c o}, .asked t c ∈ j → .answered t o ∈ j → o = .ok (ask c)

variable {ask : Criteria → Page} {s : Store} {j : Journal} {es : List Event} {l : Listing}

/-- Criteria that are published are neither question nor answer. -/
theorem AnsweredBy.publish (h : AnsweredBy ask j) (c : Criteria) :
    AnsweredBy ask (.published c :: j) := by
  intro t c' o ha ho
  exact h (by simpa using ha) (by simpa using ho)

/-- The query that goes out next has no outcome to agree with. -/
theorem AnsweredBy.wake (h : AnsweredBy ask j) {e : Engine} (hn : Numbered j e) (c : Criteria) :
    AnsweredBy ask (.asked (e.machine.latest + 1) c :: j) := by
  intro t c' o ha ho
  have hold : .answered t o ∈ j := by simpa using ho
  rcases List.mem_cons.mp ha with heq | ha
  · obtain ⟨rfl, -⟩ := Entry.asked.inj heq
    exact absurd hold (hn.not_answered_succ o)
  · exact h ha hold

/-- What the function says to a query in flight may come in. -/
theorem AnsweredBy.respond (h : AnsweredBy ask j) (hl : Trace s j es l) {t : Nat} {c : Criteria}
    (hf : (t, c) ∈ l.engine.inFlight) : AnsweredBy ask (.answered t (.ok (ask c)) :: j) := by
  have hasked : .asked t c ∈ j := (hl.numbered.flying_iff.mp hf).1
  intro t' c' o ha ho
  have hold : .asked t' c' ∈ j := by simpa using ha
  rcases List.mem_cons.mp ho with heq | ho
  · obtain ⟨rfl, rfl⟩ := Entry.answered.inj heq
    rw [hl.asked_unique hold hasked]
  · exact h hold ho

/-- Taking an outcome leaves the defaults alone. -/
@[simp] theorem defaults_complete (m : Machine) (t : Nat) (o : Outcome) :
    (m.complete t o).defaults = m.defaults := by
  unfold Machine.complete
  split
  · cases o <;> rfl
  · rfl

/-- The machine keeps the defaults of the store it was started for. -/
theorem Trace.defaults_eq (h : Trace s j es l) : l.engine.machine.defaults = s.defaults := by
  induction h using Trace.moves with
  | start => rfl
  | mutate _ _ _ ih => exact ih
  | wake _ _ ih => exact ih
  | respond _ t o _ ih =>
      show (Engine.respond _ t o).machine.defaults = s.defaults
      rw [machine_respond, defaults_complete]
      exact ih
  | dropStore _ _ ih => exact ih
  | close _ _ ih => exact ih
  | deactivate _ _ ih => exact ih

/-- **A view at rest shows the function** that answers, applied to the view's own criteria. -/
theorem Trace.view_of_answeredBy (h : Trace s j es l) (ha : AnsweredBy ask j)
    (hl : l.engine.published.loading = false) :
    l.engine.published.lastError = none ∧
      l.engine.published.page = ask l.engine.published.criteria ∧
      l.engine.published.isFiltered = l.engine.published.criteria.isFiltered s.defaults := by
  have hs := h.shown
  rw [h.published_eq_view] at hl ⊢
  obtain ⟨o, ho⟩ := hs.loading_iff.mp hl
  -- The newest query has the criteria of the view, so its outcome is about them and no others.
  obtain rfl := ha hs.asked_latest ho
  refine ⟨hs.lastError_eq ho, hs.result_eq_of_ok ho, ?_⟩
  rw [← h.defaults_eq]
  rfl

end Listing

/-! ## Loaders with a fixed function for answers -/

namespace Suggestions

/-- A loader is **filled** by a function if every list that is not awaited holds the first
suggestions of the function for its kind. -/
structure Filled (ask : SuggestionKind → List Suggestion) (limit : Nat) (l : Loader) : Prop where
  /-- How many suggestions are kept does not change. -/
  limit_eq : l.limit = limit
  /-- A list that is not awaited is there. -/
  ofKind_eq : ∀ k, k ∉ l.panel.pending → l.panel.lists.ofKind k = Lists.capped limit (ask k)

variable {ask : SuggestionKind → List Suggestion} {limit : Nat} {l : Loader}

/-- Right after the first activation every list is awaited. -/
theorem filled_activate (ask : SuggestionKind → List Suggestion) (limit : Nat) :
    Filled ask limit ((Loader.ofLimit limit).attempt .activate).1 where
  limit_eq := rfl
  ofKind_eq := fun k hk => absurd (SuggestionKind.mem_all k) hk

/-- The progress of a request is not part of the panel. -/
theorem Filled.advance (h : Filled ask limit l) (i : Nat) (p : Progress) :
    Filled ask limit (l.advance i p) :=
  ⟨h.limit_eq, h.ofKind_eq⟩

/-- The list of a kind comes in as a whole, and no other list changes. -/
theorem Filled.receive (h : Filled ask limit l) (i : Nat) (r : Request) :
    Filled ask limit (l.receive i r (.ok (ask r.kind))) := by
  unfold Loader.receive
  split
  · refine ⟨h.limit_eq, ?_⟩
    intro k hk
    have hrest : k ∉ l.panel.pending.filter (· ≠ r.kind) := hk
    show (l.panel.lists.put r.kind (ask r.kind) l.limit).ofKind k = Lists.capped limit (ask k)
    rw [Lists.ofKind_put, h.limit_eq]
    by_cases he : k = r.kind
    · rw [if_pos he, he]
    · rw [if_neg he]
      exact h.ofKind_eq k (by simpa [he] using hrest)
  · exact h.advance i .finished

end Suggestions

/-! ## Dashboards over a backend -/

/-- A view **reflects** a snapshot if it shows what the snapshot says about its own criteria. -/
structure Listing.View.Reflects (v : View) (d : Snapshot) (defaults : Criteria) : Prop where
  /-- Nothing went wrong. -/
  lastError_eq : v.lastError = none
  /-- The rows are those of the page asked for. -/
  rows_eq : v.rows = (d.query v.criteria).data
  /-- The count is that of all matches. -/
  totalCount_eq : v.totalCount = (d.query v.criteria).count
  /-- The flag compares the criteria with the defaults. -/
  isFiltered_eq : v.isFiltered = v.criteria.isFiltered defaults

namespace Dashboard

open Listing Suggestions

/-- **Faithful**: the screen is intact, every outcome in the journal of its listing is a page of the
backend, and as long as it is open its loader is filled by the backend. -/
structure Faithful (c : Config) (d : Dashboard) : Prop where
  /-- The parts of the screen work as long as it is open. -/
  intact : d.screen.Intact
  /-- The listing came about by the answers of the backend. -/
  traced : ∃ j es, Trace (.ofDefaults c.defaultCriteria) j es d.screen.listing ∧
    AnsweredBy d.backend.entities j
  /-- The loader has only seen the answers of the backend. -/
  filled : d.screen.isOpen = true →
    Filled d.backend.suggestions c.effectiveLimit d.screen.loader

namespace Faithful

variable {c : Config} {d : Dashboard}

/-- A dashboard that opens is faithful. -/
theorem activate (b : Backend) (c : Config) : Faithful c (Dashboard.activate b c).1 where
  intact := Screen.intact_activate _ _
  traced := by
    refine ⟨_, _, .start, ?_⟩
    intro t c' o _ ho
    simp at ho
  filled := fun _ => filled_activate _ _

/-- A move that brings in nothing but answers of the backend keeps a dashboard faithful. -/
theorem move (h : Faithful c d) {m : Screen.Move} {s : Screen} {es : List Event}
    (ha : d.Answers m) (hm : d.screen.step m = some (s, es)) :
    Faithful c { d with screen := s } := by
  have hintact := h.intact.step hm
  obtain ⟨j, fs, ht, hj⟩ := h.traced
  cases hm using Screen.step_cases with
  | mutate m _ he => exact ⟨hintact, ⟨_, _, ht.mutate m he, hj.publish _⟩, h.filled⟩
  | wake _ he => exact ⟨hintact, ⟨_, _, ht.wake he, hj.wake ht.numbered _⟩, h.filled⟩
  | respond t o _ he =>
      obtain ⟨c', hf, rfl⟩ := ha
      exact ⟨hintact, ⟨_, _, ht.respond t _ he, hj.respond ht hf⟩, h.filled⟩
  | send i l es _ hl =>
      obtain ⟨-, -, -, rfl⟩ := step_send_eq_some hl
      exact ⟨hintact, ⟨j, fs, ht, hj⟩, fun ho => (h.filled ho).advance i .sent⟩
  | receive i o l es _ hl =>
      obtain ⟨r, hr, -, rfl⟩ := step_receive_eq_some hl
      obtain ⟨r', hr', rfl⟩ := ha
      obtain rfl : r = r' := Option.some.inj (hr.symm.trans hr')
      exact ⟨hintact, ⟨j, fs, ht, hj⟩, fun ho => (h.filled ho).receive i r⟩
  | deactivate _ ho =>
      refine ⟨hintact, ?_, ?_⟩
      · obtain ⟨es', hleft⟩ := h.intact.trace_close ho ht
        exact ⟨j, es', hleft, hj⟩
      · -- A screen that was left is not open, so nothing is said about its loader.
        intro hopen
        rw [Screen.isOpen, h.intact.listing_close ho] at hopen
        cases hopen

/-- Whatever happens to a faithful dashboard, it stays faithful. -/
theorem leadsTo (h : Faithful c d) {e : Dashboard} (hde : d.LeadsTo e) : Faithful c e := by
  induction hde with
  | refl => exact h
  | move _ ha hm ih => exact ih.move ha hm
  | pass _ ms ih => exact ⟨ih.intact, ih.traced, ih.filled⟩

/-- A view at rest reflects the snapshot of the backend. -/
theorem reflects (h : Faithful c d) (hl : d.view.loading = false) :
    d.view.Reflects d.backend.snapshot c.defaultCriteria := by
  obtain ⟨j, es, ht, hj⟩ := h.traced
  obtain ⟨herror, hpage, hfiltered⟩ := ht.view_of_answeredBy hj hl
  exact ⟨herror, congrArg Page.data hpage, congrArg Page.count hpage, hfiltered⟩

/-- A wait for the panel is over only with all lists there. -/
theorem settled_panel (h : Faithful c d) (ho : d.screen.isOpen = true) {p : Panel}
    (hp : d.screen.settledPanel? = some p) :
    p.pending = [] ∧ ∀ k, p.lists.ofKind k =
      Lists.capped c.effectiveLimit (d.backend.suggestions k) := by
  unfold Screen.settledPanel? at hp
  split at hp
  · next hempty =>
      obtain rfl := Option.some.inj hp
      have hnil : d.screen.loader.panel.pending = [] := List.isEmpty_iff.mp hempty
      refine ⟨hnil, ?_⟩
      intro k
      apply (h.filled ho).ofKind_eq k
      rw [hnil]
      exact List.not_mem_nil
  · cases hp

end Faithful

/-- **The screen is a function of the snapshot once it is at rest**, whatever the configuration, the
user and the latencies do. A view that awaits nothing reflects the snapshot, and a wait that is over
before the screen is left brings such a view, for the criteria that were in force when it began, and
a panel that awaits nothing, with the first suggestions of every kind in their order. -/
theorem LeadsTo.reflects_snapshot {b : Backend} {c : Config} {d : Dashboard}
    (h : (activate b c).1.LeadsTo d) :
    (d.view.loading = false → d.view.Reflects b.snapshot c.defaultCriteria) ∧
      ∀ e v p, d.Settles e v p → e.screen.isOpen = true →
        v.loading = false ∧ v.Reflects b.snapshot c.defaultCriteria ∧
          v.criteria = d.screen.listing.store.current ∧ p.pending = [] ∧
          ∀ k, p.lists.ofKind k =
            ((b.snapshot.suggestions k).take c.effectiveLimit).map Suggestion.name := by
  have hd := (Faithful.activate b c).leadsTo h
  have hb : d.backend = b := h.backend_eq
  constructor
  · intro hl
    rw [← hb]
    exact hd.reflects hl
  · rintro e v p ⟨m, hdm, hme, hv, hp⟩ ho
    -- The list came to rest on the way to `e`, when the screen was open as well.
    have hm := hd.leadsTo hdm
    have hbm : m.backend = b := hdm.backend_eq.trans hb
    obtain ⟨rfl, hl, hcriteria⟩ := hm.intact.settled_view (hme.isOpen_of ho) hv
    obtain ⟨hpending, hlists⟩ := (hm.leadsTo hme).settled_panel ho hp
    refine ⟨hl, ?_, hcriteria, hpending, ?_⟩
    · rw [← hbm]
      exact hm.reflects hl
    · intro k
      rw [hlists k, hme.backend_eq.trans hbm]
      rfl

/-- Somebody searches, waits, and sees the one entity with the text in its name, as well as the
first tag, since no more than one is wanted. -/
theorem settled_after_search :
    ∃ b c d e v p, (activate b c).1.LeadsTo d ∧ d.Settles e v p ∧ e.screen.isOpen = true ∧
      d.screen.listing.store.current.searchText = "US" ∧ b.snapshot.entities.length = 2 ∧
      v.rows.map Row.name = ["user"] ∧ v.totalCount = 1 ∧ v.isFiltered = true ∧
      p.pending = [] ∧ p.lists.ofKind .tags = ["prod"] := by
  have h := (LeadsTo.refl (d := (activate
    (.ofSnapshot ⟨[⟨1, "user", "Entity", "", "READY", [], [], [], []⟩,
      ⟨2, "merchant", "Entity", "", "READY", [], [], [], []⟩], [⟨"prod"⟩, ⟨"dev"⟩], [], [], [],
      by decide⟩)
    { Config.unset with suggestionLimit := some 1 }).1)).attempt
      (m := .mutate (.search "US")) trivial
  have hsettles := (LeadsTo.settle (h.intact (Screen.intact_activate _ _))).settles rfl rfl
  obtain ⟨-, hwait⟩ := h.reflects_snapshot
  obtain ⟨-, hview, hcriteria, hpending, hlists⟩ := hwait _ _ _ hsettles rfl
  refine ⟨_, _, _, _, _, _, h, hsettles, rfl, rfl, rfl, ?_, ?_, ?_, hpending, hlists .tags⟩
  · rw [hview.rows_eq, hcriteria]
    decide +kernel
  · rw [hview.totalCount_eq, hcriteria]
    decide +kernel
  · rw [hview.isFiltered_eq, hcriteria]
    decide +kernel

end Dashboard

end Lookout
