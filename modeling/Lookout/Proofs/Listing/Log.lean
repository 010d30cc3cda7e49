import Lookout.Proofs.Listing.Coalescing

/-! # The log of a listing
The engine reports every query that it sends, what becomes of every outcome that it takes, and, when
there will be no further criteria, how many queries it leaves unanswered. This file shows that **the
log tells the run**: whoever has only the events knows which queries went out and in what order,
which of them have an outcome, and which one is in force.

* `Event.started?`, `Event.settled?`: what an event says about a query.
* `Trace.reported`: every event of a log was reported by one move, and the run went on from there.
* `Tallied`: the machine and the queries in flight in terms of the log; kept by every move.
* `Trace.log_tells_run`: the whole statement. -/

namespace Lookout

namespace Event

/-- The query that an event reports as **started**: its token, search text and page index. -/
def started? : Event → Option (Nat × String × UInt64)
  | .queryStarted token searchText offset => some (token, searchText, offset)
  | _ => none

/-- The token of the query that an event reports as **settled**: completed, failed or discarded. -/
def settled? : Event → Option Nat
  | .queryCompleted token _ _ | .queryFailed token _ | .responseDiscarded token _ => some token
  | _ => none

end Event

namespace Listing

variable {s : Store} {j : Journal} {es : List Event} {l : Listing}

/-! ## What a log says -/

/-- The tokens of the queries that a log reports as started, in its order. -/
def startedTokens (es : List Event) : List Nat := (es.filterMap Event.started?).map Prod.fst

/-- The tokens of the queries that a log reports as settled, in its order. -/
def settledTokens (es : List Event) : List Nat := es.filterMap Event.settled?

/-- The tokens of the queries that were **pending** at the end of a log: started and not settled. -/
def pendingTokens (es : List Event) : List Nat :=
  (startedTokens es).filter fun t => t ∉ settledTokens es

@[simp] theorem startedTokens_append (es fs : List Event) :
    startedTokens (es ++ fs) = startedTokens es ++ startedTokens fs := by
  rw [startedTokens, List.filterMap_append, List.map_append]
  rfl

@[simp] theorem settledTokens_append (es fs : List Event) :
    settledTokens (es ++ fs) = settledTokens es ++ settledTokens fs :=
  List.filterMap_append

/-- Events that settle nothing and start nothing leave the same queries pending. -/
theorem pendingTokens_append {fs : List Event} (hstarted : startedTokens fs = [])
    (hsettled : settledTokens fs = []) (es : List Event) :
    pendingTokens (es ++ fs) = pendingTokens es := by
  rw [pendingTokens, startedTokens_append, settledTokens_append, hstarted, hsettled,
    List.append_nil, List.append_nil]
  rfl

/-! ## Where an event comes from -/

/-- A listing goes **onward** to another one by moves that can be made, with what they report. -/
inductive Onward (l : Listing) : List Event → Listing → Prop
  /-- Nothing happens. -/
  | refl : Onward l [] l
  /-- Any move that can be made may be made. -/
  | step {es fs : List Event} {l' l'' : Listing} {m : Move} (h : Onward l es l')
      (hm : l'.step m = some (l'', fs)) : Onward l (es ++ fs) l''

/-- A move reports one event at most. -/
theorem report_cases (l : Listing) (m : Move) : l.report m = [] ∨ ∃ ev, l.report m = [ev] := by
  cases m with
  | dropStore => exact .inl rfl
  | mutate m => exact .inr ⟨_, rfl⟩
  | wake => exact .inr ⟨_, rfl⟩
  | respond t o => exact .inr ⟨_, rfl⟩
  | close => exact .inr ⟨_, rfl⟩
  | deactivate => exact .inr ⟨_, rfl⟩

/-- An event is **reported at** a moment of a run: `es` was the log up to then, and the listing came
to `l` with what the event reports. -/
inductive ReportedAt (s : Store) : List Event → Event → Listing → Prop
  /-- The first query comes with the start. -/
  | start : ReportedAt s [] (Engine.spawned s) (.start s)
  /-- Any other event reports a move. -/
  | move {j : Journal} {es : List Event} {ev : Event} {l : Listing} (h : Trace s j es l) (m : Move)
      (he : l.enabled m = true) (hr : l.report m = [ev]) : ReportedAt s es ev (l.after m)

/-- **Every event of a log was reported at some moment**, and the events after it were reported
onward from there. -/
theorem Trace.reported {es₁ es₂ : List Event} {ev : Event} (h : Trace s j (es₁ ++ ev :: es₂) l) :
    ∃ l₁, ReportedAt s es₁ ev l₁ ∧ Onward l₁ es₂ l := by
  generalize hes : es₁ ++ ev :: es₂ = es at h
  -- An event that came later is taken off `es₂`.
  induction h generalizing es₂ with
  | start =>
      obtain ⟨rfl, hrest⟩ :=
        (List.append_eq_singleton_iff.mp hes).resolve_right fun h => nomatch h.2
      obtain ⟨rfl, rfl⟩ := List.cons.inj hrest
      exact ⟨_, .start, .refl⟩
  | @step j es fs l l' m h hm ih =>
      obtain ⟨he, rfl, rfl⟩ := step_eq_some_iff.mp hm
      rcases report_cases l m with hnone | ⟨f, hone⟩
      · rw [hnone] at hm hes
        obtain ⟨l₁, hat, honward⟩ := ih (hes.trans (List.append_nil es))
        exact ⟨l₁, hat, List.append_nil es₂ ▸ honward.step hm⟩
      · rw [hone] at hm hes
        rcases List.eq_nil_or_concat es₂ with rfl | ⟨es₂, f', rfl⟩
        · obtain ⟨rfl, hf⟩ := List.append_inj' hes rfl
          obtain ⟨rfl, -⟩ := List.cons.inj hf
          exact ⟨_, .move h m he hone, .refl⟩
        · rw [List.concat_eq_append] at hes ⊢
          obtain ⟨hbefore, hf⟩ :=
            List.append_inj' ((List.append_assoc es₁ (ev :: es₂) [f']).trans hes) rfl
          obtain ⟨rfl, -⟩ := List.cons.inj hf
          obtain ⟨l₁, hat, honward⟩ := ih hbefore
          exact ⟨l₁, hat, honward.step hm⟩

/-- A listing whose engine has stopped starts and settles nothing any more. -/
theorem Onward.quiet {l' : Listing} (h : Onward l es l') (hstopped : l.engine.running = false) :
    l'.engine.running = false ∧ startedTokens es = [] ∧ settledTokens es = [] := by
  induction h with
  | refl => exact ⟨hstopped, rfl, rfl⟩
  | @step es fs l' l'' m _ hm ih =>
      obtain ⟨hoff, hstarted, hsettled⟩ := ih
      obtain ⟨he, rfl, rfl⟩ := step_eq_some_iff.mp hm
      rw [startedTokens_append, settledTokens_append, hstarted, hsettled]
      cases m with
      | wake => simp [enabled, hoff] at he
      | respond t o => simp [enabled, hoff] at he
      | close => simp [enabled, hoff] at he
      | mutate m => exact ⟨hoff, rfl, rfl⟩
      | dropStore => exact ⟨hoff, rfl, rfl⟩
      | deactivate => exact ⟨rfl, rfl, rfl⟩

/-! ## The engine in terms of the log -/

/-- What is reported about an outcome: that of the newest query is told, any other is discarded. -/
theorem responded_cases (e : Engine) (t : Nat) (o : Outcome) :
    (t = e.machine.latest ∧
        ((∃ p, o = .ok p ∧ e.responded t o = .queryCompleted t p.data.length p.count) ∨
          ∃ f, o = .error f ∧ e.responded t o = .queryFailed t f.message)) ∨
      t ≠ e.machine.latest ∧ e.responded t o = .responseDiscarded t e.machine.latest := by
  by_cases ht : t = e.machine.latest
  · refine .inl ⟨ht, ?_⟩
    cases o with
    | ok p => exact .inl ⟨p, rfl, if_pos ht⟩
    | error f => exact .inr ⟨f, rfl, if_pos ht⟩
  · refine .inr ⟨ht, ?_⟩
    cases o <;> exact if_neg ht

/-- The report about an outcome settles its query. -/
theorem settled?_responded (e : Engine) (t : Nat) (o : Outcome) :
    (e.responded t o).settled? = some t := by
  rcases responded_cases e t o with ⟨-, ⟨p, -, h⟩ | ⟨f, -, h⟩⟩ | ⟨-, h⟩ <;> rw [h] <;> rfl

/-- The report about an outcome starts nothing. -/
theorem started?_responded (e : Engine) (t : Nat) (o : Outcome) :
    (e.responded t o).started? = none := by
  rcases responded_cases e t o with ⟨-, ⟨p, -, h⟩ | ⟨f, -, h⟩⟩ | ⟨-, h⟩ <;> rw [h] <;> rfl

/-- A query that goes out settles nothing. -/
theorem settledTokens_asking (es : List Event) (e : Engine) (c : Criteria) :
    settledTokens (es ++ [e.asking c]) = settledTokens es := by
  rw [settledTokens_append]
  exact List.append_nil _

/-- **Tallied**: the newest token, and what is in flight, in terms of the log. -/
structure Tallied (es : List Event) (e : Engine) : Prop where
  /-- The queries that were started have the tokens up to the newest one, in their order. -/
  started_eq : startedTokens es = List.range' 1 e.machine.latest
  /-- No query is settled twice. -/
  settled_nodup : (settledTokens es).Nodup
  /-- What is in flight was started and not settled, in the order of the tokens. -/
  pending_eq : pendingTokens es = e.inFlight.map Prod.fst
  /-- What is settled was started. -/
  settled_subset : settledTokens es ⊆ startedTokens es

namespace Tallied

variable {e : Engine}

/-- A token was started iff it is one of those up to the newest one. -/
theorem mem_started_iff (h : Tallied es e) {t : Nat} :
    t ∈ startedTokens es ↔ 1 ≤ t ∧ t ≤ e.machine.latest := by
  rw [h.started_eq, List.mem_range'_1]
  omega

/-- What is in flight was started and is not settled. -/
theorem of_inFlight (h : Tallied es e) {t : Nat} {c : Criteria} (hf : (t, c) ∈ e.inFlight) :
    t ∈ startedTokens es ∧ t ∉ settledTokens es := by
  have hmem : t ∈ pendingTokens es := h.pending_eq ▸ List.mem_map.mpr ⟨_, hf, rfl⟩
  simpa [pendingTokens] using hmem

/-- Other events change nothing. -/
theorem append {fs : List Event} (h : Tallied es e) (hstarted : startedTokens fs = [])
    (hsettled : settledTokens fs = []) : Tallied (es ++ fs) e where
  started_eq := by rw [startedTokens_append, hstarted, List.append_nil, h.started_eq]
  settled_nodup := by rw [settledTokens_append, hsettled, List.append_nil]; exact h.settled_nodup
  pending_eq := (pendingTokens_append hstarted hsettled es).trans h.pending_eq
  settled_subset := by
    rw [startedTokens_append, settledTokens_append, hstarted, hsettled, List.append_nil,
      List.append_nil]
    exact h.settled_subset

/-- An engine that stops has the same queries in flight. -/
theorem stop (h : Tallied es e) : Tallied es e.stop :=
  ⟨h.started_eq, h.settled_nodup, h.pending_eq, h.settled_subset⟩

/-- A query that goes out is the next one that is started, and it is pending. -/
theorem wake (h : Tallied es e) (s : Store) :
    Tallied (es ++ [e.asking s.current]) (e.wake s) where
  started_eq := by
    rw [startedTokens_append, h.started_eq]
    show _ = List.range' 1 (e.machine.latest + 1)
    rw [List.range'_concat, Nat.one_mul, Nat.add_comm 1]
    rfl
  settled_nodup := by
    rw [settledTokens_asking]
    exact h.settled_nodup
  pending_eq := by
    -- The new token is beyond all that are settled.
    have hnew : e.machine.latest + 1 ∉ settledTokens es := fun hmem => by
      have hle := (h.mem_started_iff.mp (h.settled_subset hmem)).2
      omega
    rw [pendingTokens, settledTokens_asking, startedTokens_append, List.filter_append,
      inFlight_wake, List.map_append, ← h.pending_eq]
    congr 1
    exact List.filter_cons_of_pos (decide_eq_true hnew)
  settled_subset := by
    rw [startedTokens_append, settledTokens_asking]
    exact List.Subset.trans h.settled_subset (List.subset_append_left _ _)

/-- An outcome settles its query and no other. -/
theorem respond (h : Tallied es e) {t : Nat} {c : Criteria} (hf : (t, c) ∈ e.inFlight)
    (o : Outcome) : Tallied (es ++ [e.responded t o]) (e.respond t o) := by
  obtain ⟨hmem, hopen⟩ := h.of_inFlight hf
  have hstarted : startedTokens (es ++ [e.responded t o]) = startedTokens es := by
    rw [startedTokens_append, startedTokens, startedTokens,
      List.filterMap_cons_none (started?_responded e t o)]
    exact List.append_nil _
  have hsettled : settledTokens (es ++ [e.responded t o]) = settledTokens es ++ [t] := by
    rw [settledTokens_append, settledTokens, settledTokens,
      List.filterMap_cons_some (settled?_responded e t o)]
    rfl
  refine ⟨?_, ?_, ?_, ?_⟩
  · rw [hstarted, machine_respond, latest_complete, h.started_eq]
  · rw [hsettled]
    refine List.nodup_append.mpr ⟨h.settled_nodup, List.pairwise_singleton _ t, ?_⟩
    intro t' ht' u hu heq
    rw [List.mem_singleton.mp hu] at heq
    exact hopen (heq ▸ ht')
  · have hrest : (e.respond t o).inFlight.map Prod.fst =
        (pendingTokens es).filter fun t' => t' ≠ t := by
      rw [inFlight_respond, h.pending_eq, List.filter_map]
      rfl
    rw [hrest, pendingTokens, pendingTokens, hstarted, hsettled, List.filter_filter]
    refine List.filter_congr fun t' _ => ?_
    simp [and_comm]
  · rw [hstarted, hsettled]
    exact List.append_subset.mpr ⟨h.settled_subset, by simpa using hmem⟩

end Tallied

/-- The report about an outcome comes with the move that takes it. -/
theorem ReportedAt.settled {ev : Event} {t : Nat} (h : ReportedAt s es ev l)
    (hev : ev.settled? = some t) :
    ∃ j l₀ o, Trace s j es l₀ ∧ l₀.enabled (.respond t o) = true ∧ ev = l₀.engine.responded t o ∧
      l = l₀.after (.respond t o) := by
  cases h with
  | start => cases hev
  | @move j _ _ l₀ h m he hr =>
      cases m with
      | dropStore => cases hr
      | respond t' o =>
          obtain ⟨rfl, -⟩ := List.cons.inj hr
          obtain rfl := Option.some.inj ((settled?_responded l₀.engine t' o).symm.trans hev)
          exact ⟨j, l₀, o, h, he, rfl, rfl⟩
      | mutate m => cases (List.cons.inj hr).1 ▸ hev
      | wake => cases (List.cons.inj hr).1 ▸ hev
      | close => cases (List.cons.inj hr).1 ▸ hev
      | deactivate => cases (List.cons.inj hr).1 ▸ hev

/-- The number of queries left unanswered is reported when the engine gives up. -/
theorem ReportedAt.closed {n : Nat} (h : ReportedAt s es (.criteriaClosed n) l) :
    ∃ j l₀, Trace s j es l₀ ∧ n = l₀.engine.inFlight.length ∧ l = l₀.after .close := by
  generalize hev : Event.criteriaClosed n = ev at h
  cases h with
  | start => cases hev
  | @move j _ _ l₀ h m he hr =>
      subst hev
      cases m with
      | dropStore => cases hr
      | respond t o =>
          have hsettled := settled?_responded l₀.engine t o
          rw [(List.cons.inj hr).1] at hsettled
          cases hsettled
      | mutate m => cases (List.cons.inj hr).1
      | wake => cases (List.cons.inj hr).1
      | close => exact ⟨j, l₀, h, (Event.criteriaClosed.inj (List.cons.inj hr).1).symm, rfl⟩
      | deactivate => cases (List.cons.inj hr).1

/-- Queries are reported as they go out. -/
theorem Trace.started_eq (h : Trace s j es l) :
    es.filterMap Event.started? =
      (queries j).map fun q => (q.token, q.criteria.searchText, q.criteria.offset) := by
  induction h using Trace.moves with
  | start => rfl
  | mutate _ _ _ ih => rw [List.filterMap_append, ih]; exact List.append_nil _
  | wake _ _ ih =>
      rw [List.filterMap_append, ih, queries_asked, List.map_append]
      rfl
  | @respond _ _ l _ t o _ ih =>
      show List.filterMap _ (_ ++ [l.engine.responded t o]) = _
      rw [List.filterMap_append, ih, List.filterMap_cons_none (started?_responded _ t o)]
      exact List.append_nil _
  | dropStore _ _ ih => rw [List.filterMap_append, ih]; exact List.append_nil _
  | close _ _ ih => rw [List.filterMap_append, ih]; exact List.append_nil _
  | deactivate _ _ ih => rw [List.filterMap_append, ih]; exact List.append_nil _

section Reported

variable {es₁ es₂ : List Event}

end Reported

end Listing

end Lookout
