import Lookout.Proofs.Listing.Freshness
import Lookout.Proofs.Listing.Coalescing

/-! # A listing at rest
A listing whose engine has looked at the criteria in force and awaits no outcome has nothing left to
do. This file shows that it then **shows a result for these criteria**, and that it gets there by
waking up once and taking what comes.

* `Trace.at_rest`: what such a listing shows.
* `attempt_wake`, `attemptAll_respond`: the way there. -/

namespace Lookout.Listing

variable {s : Store} {j : Journal} {es : List Event} {l : Listing}

/-- **A listing with nothing left to do shows a result for the criteria in force.** -/
theorem Trace.at_rest (h : Trace s j es l) (hflight : l.engine.inFlight = [])
    (hseen : l.isBehind = false) :
    l.engine.published.loading = false ∧ l.engine.published.criteria = l.store.current := by
  have hunseen : unseen j = [] := by
    refine Decidable.byContradiction fun hne => ?_
    rw [h.following.isBehind_iff.mpr hne] at hseen
    cases hseen
  -- The newest query went out and is not in flight, so that its outcome is in the journal.
  have hanswered : ∃ o, .answered l.engine.machine.latest o ∈ j := by
    refine Classical.byContradiction fun hnone => ?_
    have hmem := h.numbered.flying_iff.mpr
      ⟨h.shown.asked_latest, fun o ho => hnone ⟨o, ho⟩⟩
    rw [hflight] at hmem
    cases hmem
  rw [h.published_eq_view]
  exact ⟨h.shown.loading_iff.mpr hanswered, h.following.caught_up hunseen⟩

/-- An engine that works and is woken has looked at the criteria in force. -/
theorem attempt_wake (hrun : l.engine.running = true) :
    (l.attempt .wake).1.isBehind = false ∧ (l.attempt .wake).1.store = l.store ∧
      (l.attempt .wake).1.engine.running = true := by
  cases hbehind : l.isBehind with
  | true =>
      have hon : l.enabled .wake = true := Bool.and_eq_true_iff.mpr ⟨hrun, hbehind⟩
      rw [attempt_of_enabled hon]
      exact ⟨decide_eq_false (fun hne => hne rfl), rfl, hrun⟩
  | false =>
      have hoff : l.enabled .wake = false := by rw [enabled, hbehind, Bool.and_false]
      rw [attempt_of_not_enabled hoff]
      exact ⟨hbehind, rfl, hrun⟩

/-- An outcome that comes in takes its query out of flight and leaves the rest as it is. -/
theorem attempt_respond (hrun : l.engine.running = true) (t : Nat) (o : Outcome) :
    (l.attempt (.respond t o)).1.isBehind = l.isBehind ∧
      (l.attempt (.respond t o)).1.store = l.store ∧
      (l.attempt (.respond t o)).1.engine.running = true ∧
      (l.attempt (.respond t o)).1.engine.inFlight = l.engine.inFlight.filter (·.1 ≠ t) := by
  cases he : l.enabled (.respond t o) with
  | true =>
      rw [attempt_of_enabled he]
      refine ⟨?_, rfl, (running_respond _ t o).trans hrun, inFlight_respond _ t o⟩
      show decide ((l.engine.respond t o).seen ≠ l.store.version) = _
      rw [seen_respond]
      rfl
  | false =>
      rw [attempt_of_not_enabled he]
      refine ⟨rfl, rfl, hrun, (List.filter_eq_self.mpr fun q hq => ?_).symm⟩
      refine decide_eq_true fun ht => ?_
      have hon : l.enabled (.respond t o) = true := enabled_respond_iff.mpr ⟨hrun, q.2, ht ▸ hq⟩
      rw [hon] at he
      cases he

/-- Outcomes that come in one after the other take their queries out of flight. -/
theorem attemptAll_respond (hrun : l.engine.running = true) (qs : List (Nat × Outcome)) :
    (l.attemptAll (qs.map fun q => .respond q.1 q.2)).1.isBehind = l.isBehind ∧
      (l.attemptAll (qs.map fun q => .respond q.1 q.2)).1.store = l.store ∧
      (l.attemptAll (qs.map fun q => .respond q.1 q.2)).1.engine.running = true ∧
      (l.attemptAll (qs.map fun q => .respond q.1 q.2)).1.engine.inFlight =
        l.engine.inFlight.filter (·.1 ∉ qs.map Prod.fst) := by
  induction qs generalizing l with
  | nil => exact ⟨rfl, rfl, hrun, (List.filter_eq_self.mpr fun q _ => rfl).symm⟩
  | cons q qs ih =>
      obtain ⟨hbehind, hstore, hrunning, hflight⟩ := attempt_respond hrun q.1 q.2
      obtain ⟨hbehind', hstore', hrunning', hflight'⟩ := ih hrunning
      rw [List.map_cons, attemptAll_cons, hbehind', hstore', hrunning', hflight', hbehind, hstore,
        hflight, List.filter_filter]
      refine ⟨rfl, rfl, rfl, ?_⟩
      congr 1
      funext p
      simp only [List.map_cons, List.mem_cons, not_or, Bool.decide_and, ne_eq]
      exact Bool.and_comm _ _

end Lookout.Listing
