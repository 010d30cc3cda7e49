import Lookout.Proofs.Criteria
import Lookout.Proofs.Dashboard.Refinement
import Lookout.Proofs.Listing.Rest
import Lookout.Proofs.Screen.Parts
import Lookout.Proofs.Suggestions.Rest

/-! # A dashboard at rest
The user makes some mutations, in an order, while queries go out and come back as they like. This file
shows that **whoever waits for the dashboard then sees what the mutations lead to, whatever the
schedule was**, and that a dashboard that is left alone gets there.

* `Mutates`: a way from a dashboard to another one on which the user makes certain mutations.
* `Mutates.view_and_panel`: what a wait at the end of such a way brings.
* `LeadsTo.comes_to_rest`: a dashboard that does what it does on its own comes to rest. -/

namespace Lookout

open Listing Suggestions

/-! ## What there is to see -/

/-- The view at rest for some criteria, over a snapshot and with some defaults. -/
def Listing.View.atRest (d : Snapshot) (defaults k : Criteria) : View :=
  ⟨(d.query k).data, (d.query k).count, false, k.isFiltered defaults, k, none⟩

/-- The lists at rest, over a snapshot and with a limit. -/
def Suggestions.Lists.atRest (d : Snapshot) (limit : Nat) : Lists :=
  ⟨capped limit (d.suggestions .tags), capped limit (d.suggestions .labels),
    capped limit (d.suggestions .features)⟩

/-- A view that awaits nothing and reflects a snapshot is the view at rest for its criteria. -/
theorem Listing.View.Reflects.eq_atRest {v : View} {d : Snapshot} {defaults : Criteria}
    (h : v.Reflects d defaults) (hl : v.loading = false) : v = .atRest d defaults v.criteria := by
  obtain ⟨herror, hrows, hcount, hfiltered⟩ := h
  cases v
  simp only at herror hrows hcount hfiltered hl
  subst herror hrows hcount hfiltered hl
  rfl

/-- Lists that have the first suggestions of every kind are the lists at rest. -/
theorem Suggestions.Lists.eq_atRest {l : Lists} {d : Snapshot} {limit : Nat}
    (h : ∀ k, l.ofKind k = capped limit (d.suggestions k)) : l = .atRest d limit := by
  have htags := h .tags
  have hlabels := h .labels
  have hfeatures := h .features
  cases l
  simp only [ofKind] at htags hlabels hfeatures
  subst htags hlabels hfeatures
  rfl

/-- What the user does with a move. -/
def Screen.Move.mutation? : Screen.Move → Option Mutation
  | .mutate m => some m
  | .wake | .respond _ _ | .send _ | .receive _ _ | .deactivate => none

/-- What a move does to the store. -/
theorem Screen.store_step {s s' : Screen} {m : Screen.Move} {es : List Event} (hi : s.Intact)
    (h : s.step m = some (s', es)) :
    s'.listing.store = s.listing.store.mutateAll m.mutation?.toList := by
  cases h using Screen.step_cases with
  | mutate m => rfl
  | wake => rfl
  | respond => rfl
  | send => rfl
  | receive => rfl
  | deactivate _ ho =>
      rw [hi.listing_close ho]
      rfl

namespace Dashboard

/-! ## What the user does on the way -/

/-- A dashboard **mutates** into another one if it leads there while the user makes the mutations, in
this order and no others. Whatever else happens may happen at any time. -/
inductive Mutates (d : Dashboard) : List Mutation → Dashboard → Prop
  /-- Nothing happens. -/
  | refl : Mutates d [] d
  /-- A move is made that can be made; what it brings in is the backend's. -/
  | move {ms : List Mutation} {e : Dashboard} {m : Screen.Move} {s : Screen} {es : List Event}
      (h : Mutates d ms e) (ha : e.Answers m) (hm : e.screen.step m = some (s, es)) :
      Mutates d (ms ++ m.mutation?.toList) { e with screen := s }
  /-- Time passes. -/
  | pass {ms : List Mutation} {e : Dashboard} (h : Mutates d ms e) (t : Nat) :
      Mutates d ms { e with elapsed := e.elapsed + t }

namespace Mutates

variable {b : Backend} {c : Config} {d e f : Dashboard} {ms : List Mutation}

/-- A way with mutations on it is a way. -/
theorem leadsTo (h : d.Mutates ms e) : d.LeadsTo e := by
  induction h with
  | refl => exact .refl
  | move _ ha hm ih => exact ih.move ha hm
  | pass _ t ih => exact ih.pass t

/-- The mutations on the way, and nothing else, make the store what it is. -/
theorem store_eq (h : d.Mutates ms e) (hd : d.screen.Intact) :
    e.screen.listing.store = d.screen.listing.store.mutateAll ms := by
  induction h with
  | refl => rfl
  | move h _ hm ih =>
      rw [Screen.store_step (h.leadsTo.intact hd) hm, ih]
      exact List.foldl_append.symm
  | pass _ _ ih => exact ih

/-- Mutations that are made one after the other on an open screen are all made. -/
theorem attemptAll (h : d.Mutates ms e) (hd : d.screen.Intact) (ho : e.screen.isOpen = true)
    (ns : List Mutation) :
    d.Mutates (ms ++ ns) (e.attemptAll (ns.map .mutate)).1 ∧
      (e.attemptAll (ns.map .mutate)).1.screen.isOpen = true := by
  induction ns generalizing ms e with
  | nil => exact ⟨(List.append_nil ms).symm ▸ h, ho⟩
  | cons n ns ih =>
      have hopen : e.screen.listing.enabled (.mutate n) = true :=
        (h.leadsTo.intact hd).storeOpen_eq.trans ho
      have hstep : e.screen.step (.mutate n) = some _ :=
        Screen.list_eq_some_iff.mpr ⟨hopen, rfl, rfl⟩
      have hattempt : (e.attempt (.mutate n)).1 =
          { e with screen := { e.screen with listing := e.screen.listing.after (.mutate n) } } := by
        show { e with screen := (e.screen.attempt (.mutate n)).1 } = _
        rw [Screen.attempt, hstep]
        rfl
      have hnext := ih (h.move (m := .mutate n) trivial hstep) ho
      rw [List.append_assoc] at hnext
      show d.Mutates _ ((e.attempt (.mutate n)).1.attemptAll (ns.map .mutate)).1 ∧
        ((e.attempt (.mutate n)).1.attemptAll (ns.map .mutate)).1.screen.isOpen = true
      rw [hattempt]
      exact hnext

/-- The criteria that the mutations on the way make of the defaults are in force. -/
theorem current_eq (h : (activate b c).1.Mutates ms e) :
    e.screen.listing.store.current =
      Criteria.applyAll c.defaultCriteria c.defaultCriteria ms := by
  rw [h.store_eq (Screen.intact_activate _ _), (Store.mutateAll_eq _ ms).2]
  rfl

/-- **A wait brings what the mutations lead to**, whatever the schedule was before it and is meanwhile:
the view at rest for the criteria that they make of the defaults, and the lists at rest. -/
theorem view_and_panel (h : (activate b c).1.Mutates ms e) {v : View} {p : Panel}
    (hs : e.Settles f v p) (ho : f.screen.isOpen = true) :
    v = .atRest b.snapshot c.defaultCriteria
        (Criteria.applyAll c.defaultCriteria c.defaultCriteria ms) ∧
      p = ⟨.atRest b.snapshot c.effectiveLimit, []⟩ := by
  obtain ⟨m, hem, hmf, hv, hp⟩ := hs
  have hm := (Faithful.activate b c).leadsTo (h.leadsTo.trans hem)
  have hbm : m.backend = b := (h.leadsTo.trans hem).backend_eq
  obtain ⟨rfl, hl, hcriteria⟩ := hm.intact.settled_view (hmf.isOpen_of ho) hv
  obtain ⟨hpending, hlists⟩ := (hm.leadsTo hmf).settled_panel ho hp
  rw [hmf.backend_eq, hbm] at hlists
  refine ⟨?_, ?_⟩
  · rw [← h.current_eq, ← hcriteria, ← hbm]
    exact (hm.reflects hl).eq_atRest hl
  · cases p
    simp only at hpending hlists
    rw [hpending, Lists.eq_atRest hlists]

end Mutates

/-! ## What a dashboard gets to on its own -/

/-- The outcomes of some queries, with their tokens. -/
def queryOutcomes (d : Dashboard) (qs : List (Nat × Criteria)) : List (Nat × Listing.Outcome) :=
  qs.map fun q => (q.1, .ok (d.backend.entities q.2))

/-- The outcomes of the requests for suggestions that are open, with the indices of the requests. -/
def suggestionOutcomes (d : Dashboard) : List (Nat × Suggestions.Outcome) :=
  d.screen.loader.requests.zipIdx.filterMap fun (r, index) =>
    if r.progress = .sent then some (index, .ok (d.backend.suggestions r.kind)) else none

/-- Queries that are answered get the answers of the backend, one after the other. -/
theorem screen_answerQueries (d : Dashboard) (qs : List (Nat × Criteria)) :
    (d.answerQueries qs).1.screen =
      (d.screen.attemptAll ((d.queryOutcomes qs).map fun a => .respond a.1 a.2)).1 := by
  induction qs generalizing d with
  | nil => rfl
  | cons q qs ih => exact ih (d.answerQuery q.1 q.2).1

/-- The answers to requests for suggestions bring in their outcomes. -/
theorem suggestionAnswers_eq (d : Dashboard) :
    d.suggestionAnswers = d.suggestionOutcomes.map fun a => .receive a.1 a.2 := by
  rw [suggestionAnswers, suggestionOutcomes, List.map_filterMap]
  congr 1
  funext ⟨r, index⟩
  simp only
  split <;> rfl

/-- What a dashboard does on its own, in three rounds: its screen does what it can do, the queries are
answered, and then the requests for suggestions. -/
theorem screen_settle (d : Dashboard) :
    d.settle.1.screen =
      ((d.screen.settle.1.attemptAll
          ((d.queryOutcomes d.screen.settle.1.listing.engine.inFlight).map fun a =>
            .respond a.1 a.2)).1.attemptAll
        ((suggestionOutcomes { d with screen := d.screen.settle.1 }).map fun a =>
          .receive a.1 a.2)).1 := by
  rw [← suggestionAnswers_eq]
  unfold settle
  show (Screen.attemptAll (answerQueries _ _).1.screen _).1 = _
  rw [screen_answerQueries]
  rfl

/-- Every request that was sent gets an outcome. -/
theorem mem_suggestionOutcomes {d : Dashboard} {k : Nat} {r : Request}
    (hr : d.screen.loader.requests[k]? = some r) (hsent : r.progress = .sent) :
    k ∈ d.suggestionOutcomes.map Prod.fst := by
  refine List.mem_map.mpr ⟨(k, .ok (d.backend.suggestions r.kind)), ?_, rfl⟩
  exact List.mem_filterMap.mpr ⟨(r, k), List.mem_zipIdx_iff_getElem?.mpr hr, if_pos hsent⟩

namespace LeadsTo

variable {b : Backend} {c : Config} {d e : Dashboard}

/-- What happens to a dashboard happens to its screen. -/
theorem trace (h : (activate b c).1.LeadsTo d) :
    ∃ j, Screen.Trace c.defaultCriteria c.effectiveLimit j d.screen := by
  induction h with
  | refl => exact ⟨_, .start⟩
  | move _ _ hm ih =>
      obtain ⟨j, ht⟩ := ih
      exact ⟨_, ht.step hm⟩
  | pass _ _ ih => exact ih

end LeadsTo

variable {b : Backend} {c : Config} {e : Dashboard}

/-- The screen of an intact dashboard after all rounds, part by part. -/
theorem parts_settle (hi : e.screen.Intact) (hs : e.screen.settle.1.Whole) :
    e.settle.1.screen.listing =
        ((e.screen.listing.attempt .wake).1.attemptAll
          ((e.queryOutcomes (e.screen.listing.attempt .wake).1.engine.inFlight).map fun a =>
            .respond a.1 a.2)).1 ∧
      e.settle.1.screen.loader =
        (e.screen.loader.settle.1.attemptAll
          ((suggestionOutcomes { e with screen := e.screen.settle.1 }).map fun a =>
            .receive a.1 a.2)).1 := by
  have hwake : e.screen.settle.1.listing = (e.screen.listing.attempt .wake).1 := hi.settle_listing
  rw [screen_settle, hwake]
  refine ⟨?_, ?_⟩
  · rw [(hs.attemptAll _).listing_attemptAll, hs.listing_attemptAll, Screen.listing_receive,
      Screen.listing_respond, hwake]
    rfl
  · rw [(hs.attemptAll _).loader_attemptAll, hs.loader_attemptAll, Screen.loading_respond,
      Screen.loading_receive]
    rfl

/-- **A dashboard that is left alone comes to rest**: after it did what it does on its own it is open
still, for the same criteria, and nobody has to wait for its list and its panel. -/
theorem LeadsTo.comes_to_rest (h : (activate b c).1.LeadsTo e) (ho : e.screen.isOpen = true) :
    e.settle.1.screen.isOpen = true ∧
      e.settle.1.screen.listing.store = e.screen.listing.store ∧
      e.settle.1.screen.settled? = some (e.settle.1.view, e.settle.1.panel) := by
  obtain ⟨j, ht⟩ := h.trace
  obtain ⟨j₀, ht₀⟩ := (h.settleScreen ht.intact).trace
  obtain ⟨j', ht'⟩ := (h.trans (.settle ht.intact)).trace
  obtain ⟨hlisting, hloader⟩ := parts_settle ht.intact ht₀.whole
  -- The engine wakes up once, and then no outcome leaves anything to look at.
  obtain ⟨hbehind, hstore, hrun⟩ := attempt_wake (ht.intact.running_eq.trans ho)
  obtain ⟨hbehind', hstore', hrun', hflight⟩ := attemptAll_respond hrun
    (e.queryOutcomes (e.screen.listing.attempt .wake).1.engine.inFlight)
  rw [← hlisting] at hbehind' hstore' hrun' hflight
  have hopen : e.settle.1.screen.isOpen = true := ht'.intact.running_eq.symm.trans hrun'
  have hnone : e.settle.1.screen.listing.engine.inFlight = [] := by
    rw [hflight]
    refine List.filter_eq_nil_iff.mpr fun q hq => ?_
    have hmem : q.1 ∈ (e.queryOutcomes
        (e.screen.listing.attempt .wake).1.engine.inFlight).map Prod.fst :=
      List.mem_map.mpr ⟨_, List.mem_map.mpr ⟨q, hq, rfl⟩, rfl⟩
    simpa using hmem
  obtain ⟨es, hl⟩ := ht'.listing
  obtain ⟨hloading, hcriteria⟩ := hl.at_rest hnone (hbehind'.trans hbehind)
  -- Every request was sent by then, so that the second round ends all of them.
  have hfinished : ∀ r ∈ e.settle.1.screen.loader.requests, r.progress = .finished := by
    rw [hloader]
    exact Loader.finished_of_received (Loader.settle_sends _) fun k r hr hsent =>
      mem_suggestionOutcomes (d := { e with screen := e.screen.settle.1 }) hr hsent
  obtain ⟨history, hleads⟩ := ht'.loader
  have hpending := hleads.at_rest (ht'.whole.live_eq.trans hopen) hfinished
  refine ⟨hopen, hstore'.trans hstore, ?_⟩
  have hview : e.settle.1.screen.settledView? = some e.settle.1.view := by
    rw [Screen.settledView?, Listing.settled?]
    refine if_pos ?_
    simp [View.isSettledFor, hloading, hcriteria]
  have hpanel : e.settle.1.screen.settledPanel? = some e.settle.1.panel :=
    if_pos (List.isEmpty_iff.mpr hpending)
  rw [Screen.settled?, hview, hpanel]
  rfl

/-- Whoever waits for a dashboard that is left alone is served. -/
theorem LeadsTo.settles_alone (h : (activate b c).1.LeadsTo e) (ho : e.screen.isOpen = true) :
    e.Settles e.settle.1 e.settle.1.view e.settle.1.panel ∧ e.settle.1.screen.isOpen = true := by
  obtain ⟨hopen, hstore, hsettled⟩ := h.comes_to_rest ho
  have hleads := LeadsTo.settle (h.intact (Screen.intact_activate _ _))
  exact ⟨hleads.settles (congrArg Store.current hstore) hsettled, hopen⟩

end Dashboard

end Lookout
