import Lookout.Proofs.Listing.Coalescing
import Lookout.Proofs.Listing.Freshness
import Lookout.Proofs.Screen.Trace

/-! # What a wait brings
Whoever changes the criteria and then waits wants to see what came of the change. This file shows what
they see, whatever the platform answers: **the outcome of the newest query**, which was for the
criteria in force. That query went out after the change as soon as any query did, and one did if the
newest query before the change was for other criteria.

A wait compares criteria and knows nothing of publications. If the change publishes what the newest
query was for, then until the engine notices it the view of that query ends the wait. And a query that
failed leaves the rows of the last timely page on the screen (`settled_of_older_query`).

* `Trace.newest_mem`: if any query went out after some moment, then the newest one did.
* `View.ShowsNewest`: what it means to show the outcome of the newest query.
* `Trace.settledView_spec`: the whole statement. -/

namespace Lookout

namespace Listing

/-! ## Longer journals -/

/-- As long as nothing is published, the publications stay. -/
theorem publications_append {k : Journal} (h : ∀ c, .published c ∉ k) (j : Journal) :
    publications (k ++ j) = publications j := by
  induction k with
  | nil => rfl
  | cons x k ih =>
      have hk : ∀ c, .published c ∉ k := fun c hc => h c (List.mem_cons_of_mem _ hc)
      cases x with
      | published c => exact absurd List.mem_cons_self (h c)
      | asked => exact ih hk
      | answered => exact ih hk

/-- As long as no query goes out, the highest token stays. -/
theorem highest_append {k : Journal} (h : ∀ t c, .asked t c ∉ k) (j : Journal) :
    highest (k ++ j) = highest j := by
  induction k with
  | nil => rfl
  | cons x k ih =>
      have hk : ∀ t c, .asked t c ∉ k := fun t c hc => h t c (List.mem_cons_of_mem _ hc)
      cases x with
      | published => exact ih hk
      | asked t c => exact absurd List.mem_cons_self (h t c)
      | answered => exact ih hk

/-- **When a query went out**, the journal up to then was that of a trace, and the token was the next
one of the machine. The first query, before which there was nothing, is left out. -/
theorem Trace.before_asked {s : Store} {j k : Journal} {t : Nat} {c : Criteria} {es : List Event}
    {l : Listing} (h : Trace s (k ++ .asked t c :: j) es l) (hj : j ≠ []) :
    ∃ es' l', Trace s j es' l' ∧ t = l'.engine.machine.latest + 1 := by
  generalize hkj : k ++ .asked t c :: j = kj at h
  -- An entry that came later is taken off `k`.
  induction h using Trace.moves generalizing k with
  | start =>
      rcases List.append_eq_cons_iff.mp hkj with ⟨-, heq⟩ | ⟨k', -, hnil⟩
      · exact absurd (List.cons.inj heq).2 hj
      · exact absurd hnil.symm (List.append_ne_nil_of_right_ne_nil _ (List.cons_ne_nil _ _))
  | mutate _ _ _ ih =>
      rcases List.append_eq_cons_iff.mp hkj with ⟨-, heq⟩ | ⟨k', -, hk'⟩
      · cases heq
      · exact ih hk'.symm
  | wake h _ ih =>
      rcases List.append_eq_cons_iff.mp hkj with ⟨-, heq⟩ | ⟨k', -, hk'⟩
      · obtain ⟨hasked, rfl⟩ := List.cons.inj heq
        exact ⟨_, _, h, (Entry.asked.inj hasked).1⟩
      · exact ih hk'.symm
  | respond _ _ _ _ ih =>
      rcases List.append_eq_cons_iff.mp hkj with ⟨-, heq⟩ | ⟨k', -, hk'⟩
      · cases heq
      · exact ih hk'.symm
  | dropStore _ _ ih => exact ih hkj
  | close _ _ ih => exact ih hkj
  | deactivate _ _ ih => exact ih hkj

/-- Once a query went out after some moment, the newest one went out after it, and so its outcome
came in after it. -/
theorem Trace.newest_mem {s : Store} {j k : Journal} {es : List Event} {l : Listing}
    (h : Trace s (k ++ j) es l) (hj : j ≠ []) {t : Nat} {c : Criteria} (hk : .asked t c ∈ k) :
    (∀ c', .asked (highest (k ++ j)) c' ∈ k ++ j → .asked (highest (k ++ j)) c' ∈ k) ∧
      ∀ o, .answered (highest (k ++ j)) o ∈ k ++ j → .answered (highest (k ++ j)) o ∈ k := by
  obtain ⟨k₂, k₁, rfl⟩ := List.append_of_mem hk
  have hle : t ≤ highest ((k₂ ++ .asked t c :: k₁) ++ j) := le_highest (List.mem_append_left j hk)
  -- When the query went out, no query had its token or a higher one.
  have hsplit : (k₂ ++ .asked t c :: k₁) ++ j = k₂ ++ .asked t c :: (k₁ ++ j) := by
    rw [List.append_assoc, List.cons_append]
  obtain ⟨es', l', hold, htoken⟩ :=
    (hsplit ▸ h).before_asked (List.append_ne_nil_of_right_ne_nil k₁ hj)
  have hnew : ∀ c', .asked (highest ((k₂ ++ .asked t c :: k₁) ++ j)) c' ∉ k₁ ++ j := by
    intro c' ha
    have hlatest := hold.numbered.asked_le ha
    omega
  constructor
  · intro c' ha
    exact (List.mem_append.mp ha).resolve_right fun hmem => hnew c' (List.mem_append_right k₁ hmem)
  · intro o ho
    refine (List.mem_append.mp ho).resolve_right fun hmem => ?_
    obtain ⟨c', ha⟩ := hold.numbered.asked_of_answered (List.mem_append_right k₁ hmem)
    exact hnew c' ha

/-! ## What a view shows -/

/-- A view **shows the newest** query of a journal, for the criteria `c` and with the outcome `o`, if
it awaits nothing and says what the outcome says. Under the message of a failure it keeps the rows of
the timely page. -/
structure View.ShowsNewest (v : View) (j : Journal) (c : Criteria) (o : Outcome) : Prop where
  /-- Nothing is awaited. -/
  loading_eq : v.loading = false
  /-- The criteria are those of the query. -/
  criteria_eq : v.criteria = c
  /-- The query is the one with the highest token. -/
  asked : .asked (highest j) c ∈ j
  /-- The outcome is that of the query. -/
  answered : .answered (highest j) o ∈ j
  /-- A success leaves no message, a failure leaves its own. -/
  lastError_eq : v.lastError = errorText o
  /-- A success is shown. -/
  page_of_ok : ∀ p, o = .ok p → v.page = p
  /-- In any case the timely page is shown. -/
  page_eq : v.page = timelyPage j

/-- A view at rest shows the newest query. -/
theorem Trace.showsNewest {s : Store} {j : Journal} {es : List Event} {l : Listing}
    (h : Trace s j es l) (hl : l.engine.published.loading = false) :
    ∃ o, l.engine.published.ShowsNewest j l.engine.published.criteria o := by
  have hs := h.shown
  have hj := h.numbered.highest_eq
  rw [h.published_eq_view] at hl ⊢
  obtain ⟨o, ho⟩ := hs.loading_iff.mp hl
  refine ⟨o, hl, rfl, ?_, ?_, hs.lastError_eq ho, ?_, hs.result_eq⟩
  · rw [hj]
    exact hs.asked_latest
  · rw [hj]
    exact ho
  · rintro p rfl
    exact hs.result_eq_of_ok ho

end Listing

namespace Screen

open Listing

namespace Trace

variable {defaults : Criteria} {limit : Nat} {j : Journal} {s : Screen}

/-- The last publication is in force as long as nothing else is published. -/
theorem current_eq {k : Journal} {c : Criteria} (h : Trace defaults limit (k ++ .published c :: j) s)
    (hk : ∀ c', .published c' ∉ k) : s.listing.store.current = c := by
  obtain ⟨es, ht⟩ := h.listing
  have hlast := ht.following.current_eq
  rw [publications_append hk, publications_published, ← List.cons_append, List.getLast?_concat]
    at hlast
  exact (Option.some.inj hlast).symm

/-- **A wait brings the outcome of the newest query**, whatever the platform answers and whenever.
Somebody published `c` and then waits, and nobody publishes anything else: the wait is over with the
outcome of the newest query, which was for `c`. If any query went out after the publication then that
one did, and its outcome came in after it. One did if the newest query before was not for `c`. -/
theorem settledView_spec {k : Journal} {c : Criteria} {v : View}
    (h : Trace defaults limit (k ++ .published c :: j) s) (hk : ∀ c', .published c' ∉ k)
    (ho : s.isOpen = true) (hv : s.settledView? = some v) :
    ∃ o, v.ShowsNewest (k ++ .published c :: j) c o ∧
      ((∃ t c', .asked t c' ∈ k) →
        .asked (highest (k ++ .published c :: j)) c ∈ k ∧
          .answered (highest (k ++ .published c :: j)) o ∈ k) ∧
      (.asked (highest j) c ∉ j → ∃ t c', .asked t c' ∈ k) := by
  obtain ⟨es, ht⟩ := h.listing
  obtain ⟨rfl, hl, hcriteria⟩ := h.intact.settled_view ho hv
  rw [h.current_eq hk] at hcriteria
  obtain ⟨o, hnewest⟩ := ht.showsNewest hl
  rw [hcriteria] at hnewest
  refine ⟨o, hnewest, ?_, ?_⟩
  · rintro ⟨t, c', hasked⟩
    obtain ⟨hquery, houtcome⟩ := ht.newest_mem (List.cons_ne_nil _ _) hasked
    exact ⟨hquery c hnewest.asked, houtcome o hnewest.answered⟩
  · intro hother
    refine Classical.byContradiction fun hnone => hother ?_
    -- Without a query after the publication, the newest query is the newest one before.
    have hunasked : ∀ t c', .asked t c' ∉ k := fun t c' ha => hnone ⟨t, c', ha⟩
    have hasked := hnewest.asked
    rw [highest_append hunasked] at hasked
    have hbefore : .asked (highest j) c ∈ Listing.Entry.published c :: j :=
      (List.mem_append.mp hasked).resolve_left (hunasked _ _)
    exact (List.mem_cons.mp hbefore).resolve_left nofun

/-- Somebody resets criteria that were never changed. The engine notices it, and the wait brings the
page of the query that it sends then. -/
theorem settledView_after_reset :
    ∃ j k c s v o, Trace .standard 10 (k ++ .published c :: j) s ∧ s.isOpen = true ∧
      s.settledView? = some v ∧ .asked (highest j) c ∈ j ∧ v.page = ⟨[], 7⟩ ∧
      v.ShowsNewest (k ++ .published c :: j) c o ∧ .asked 2 c ∈ k ∧ .answered 2 o ∈ k := by
  let k : Journal := [.answered 2 (.ok ⟨[], 7⟩), .asked 2 .standard]
  have hk : ∀ c', .published c' ∉ k := by simp [k]
  have reset := ((start : Trace .standard 10 _ _).attempt (.respond 1 (.ok ⟨[], 3⟩))
    rfl).attempt (.mutate .reset) rfl
  have h := (reset.attempt .wake rfl).attempt (.respond 2 (.ok ⟨[], 7⟩)) rfl
  obtain ⟨o, hnewest, hfresh, -⟩ := settledView_spec (k := k) h hk rfl rfl
  obtain ⟨hasked, hanswered⟩ := hfresh ⟨2, .standard, by simp [k]⟩
  exact ⟨_, k, _, _, _, o, h, rfl, rfl, List.mem_cons_of_mem _ List.mem_cons_self, rfl, hnewest,
    hasked, hanswered⟩

/-- Two waits that bring rows which were asked for before the last publication, though the panel is
there and the screen open: one after a query that failed, whose message is shown above the rows, and
one before the engine has noticed that the same criteria were published again. -/
theorem settled_of_older_query :
    (∃ j k c s v p page f, Trace .standard 10 (k ++ .published c :: j) s ∧
      (∀ c', .published c' ∉ k) ∧ s.isOpen = true ∧ s.settled? = some (v, p) ∧
      .answered 1 (.ok page) ∈ j ∧ v.page = page ∧ page.count = 3 ∧
      .answered 2 (.error f) ∈ k ∧ v.lastError = some f.message) ∧
    ∃ j c s v p page, Trace .standard 10 (.published c :: j) s ∧ s.isOpen = true ∧
      s.settled? = some (v, p) ∧ .answered 1 (.ok page) ∈ j ∧ v.page = page ∧ page.count = 3 ∧
      v.lastError = none := by
  have filled := (start : Trace .standard 10 _ _).attempt (.send 0) rfl
    |>.attempt (.send 1) rfl |>.attempt (.send 2) rfl |>.attempt (.receive 0 (.ok [])) rfl
    |>.attempt (.receive 1 (.ok [])) rfl |>.attempt (.receive 2 (.ok [])) rfl
  have answered := filled.attempt (.respond 1 (.ok ⟨[], 3⟩)) rfl
  have reset := answered.attempt (.mutate .reset) rfl
  have failed := (reset.attempt .wake rfl).attempt (.respond 2 (.error (.unavailable "503"))) rfl
  constructor
  · let k : Journal := [.answered 2 (.error (.unavailable "503")), .asked 2 .standard]
    have hk : ∀ c', .published c' ∉ k := by simp [k]
    exact ⟨_, k, _, _, _, _, _, _, failed, hk, rfl, rfl, List.mem_cons_self, rfl, rfl,
      List.mem_cons_self, rfl⟩
  · exact ⟨_, _, _, _, _, _, reset, rfl, rfl, List.mem_cons_self, rfl, rfl, rfl⟩

end Trace

end Screen

end Lookout
