import Lookout.Dashboard
import Lookout.Proofs.Screen.Trace

/-! # Runs of a dashboard
Between two looks at a dashboard the user may have changed the criteria any number of times, and the
calls may have taken any time to come back. This file says once what can happen in between.

* **`Answers`**: a move brings in nothing but what the backend says to a question that is open.
* **`LeadsTo`**: a dashboard can become another one by such moves and by waiting. Every order of
  mutations, wake-ups and answers is a way from one to the other.
* **`Settles`**: a wait for list and panel was over, and this is what it brought.
* `LeadsTo.settle`: what a dashboard does on its own leads to a dashboard. -/

namespace Lookout

open Listing Suggestions

namespace Dashboard

/-! ## Answers of the backend -/

/-- Whether a move **answers** only what is open, and with the words of the backend; what the user
and the dashboard itself do is free. -/
def Answers (d : Dashboard) : Screen.Move → Prop
  | .respond t o =>
    ∃ c, (t, c) ∈ d.screen.listing.engine.inFlight ∧ o = .ok (d.backend.entities c)
  | .receive i o =>
    ∃ r, d.screen.loader.requests[i]? = some r ∧ o = .ok (d.backend.suggestions r.kind)
  | .mutate _ | .wake | .send _ | .deactivate => True

/-- A dashboard **leads to** another one if moves and waiting make the one of the other. -/
inductive LeadsTo (d : Dashboard) : Dashboard → Prop
  /-- Nothing happens. -/
  | refl : LeadsTo d d
  /-- A move is made that can be made; what it brings in is the backend's. -/
  | move {e : Dashboard} {m : Screen.Move} {s : Screen} {es : List Event} (h : LeadsTo d e)
      (ha : e.Answers m) (hm : e.screen.step m = some (s, es)) : LeadsTo d { e with screen := s }
  /-- Time passes. -/
  | pass {e : Dashboard} (h : LeadsTo d e) (ms : Nat) :
      LeadsTo d { e with elapsed := e.elapsed + ms }

namespace LeadsTo

variable {d e f : Dashboard}

/-- The backend stays the same. -/
theorem backend_eq (h : d.LeadsTo e) : e.backend = d.backend := by
  induction h with
  | refl => rfl
  | move _ _ _ ih => exact ih
  | pass _ _ ih => exact ih

/-- A request keeps its place and its kind. -/
theorem request (h : d.LeadsTo e) {i : Nat} {r : Request}
    (hr : d.screen.loader.requests[i]? = some r) :
    ∃ r', e.screen.loader.requests[i]? = some r' ∧ r'.kind = r.kind := by
  induction h with
  | refl => exact ⟨r, hr, rfl⟩
  | move _ _ hm ih =>
      obtain ⟨r', hr', hkind⟩ := ih
      obtain ⟨q, hq, hqkind⟩ := Screen.request_of_step hm hr'
      exact ⟨q, hq, hqkind.trans hkind⟩
  | pass _ _ ih => exact ih

/-- What happens goes on. -/
theorem trans (h : d.LeadsTo e) (h' : e.LeadsTo f) : d.LeadsTo f := by
  induction h' with
  | refl => exact h
  | move _ ha hm ih => exact ih.move ha hm
  | pass _ ms ih => exact ih.pass ms

/-- A screen that is open was open before. -/
theorem isOpen_of (h : d.LeadsTo e) (ho : e.screen.isOpen = true) : d.screen.isOpen = true := by
  induction h with
  | refl => exact ho
  | move _ _ hm ih => exact ih (Screen.isOpen_of_step hm ho)
  | pass _ _ ih => exact ih ho

/-- An intact screen stays intact. -/
theorem intact (h : d.LeadsTo e) (hd : d.screen.Intact) : e.screen.Intact := by
  induction h with
  | refl => exact hd
  | move _ _ hm ih => exact ih.step hm
  | pass _ _ ih => exact ih

end LeadsTo

/-- A wait that began at `d` **settles** at `e` with `v` and `p`: first the list came to rest for
the criteria that were in force at `d`, and then the panel. Meanwhile anything may happen. -/
def Settles (d e : Dashboard) (v : View) (p : Panel) : Prop :=
  ∃ m : Dashboard, d.LeadsTo m ∧ m.LeadsTo e ∧
    m.screen.listing.settled? (some d.screen.listing.store.current) = some v ∧
    e.screen.settledPanel? = some p

/-- Whoever finds listing and panel at rest, for the criteria that were in force when the wait
began, need not wait any longer. -/
theorem LeadsTo.settles {d e : Dashboard} {v : View} {p : Panel} (h : d.LeadsTo e)
    (hc : e.screen.listing.store.current = d.screen.listing.store.current)
    (hs : e.screen.settled? = some (v, p)) : d.Settles e v p := by
  obtain ⟨v', hv, hmap⟩ := Option.bind_eq_some_iff.mp hs
  obtain ⟨p', hp, hpair⟩ := Option.map_eq_some_iff.mp hmap
  obtain ⟨rfl, rfl⟩ := Prod.mk.inj hpair
  rw [Screen.settledView?, hc] at hv
  exact ⟨e, h, .refl, hv, hp⟩

/-! ## What a dashboard does on its own -/

namespace LeadsTo

variable {d e : Dashboard}

/-- A dashboard tries moves that can come next, whether they can be made or not. -/
theorem attempt (h : d.LeadsTo e) {m : Screen.Move} (ha : e.Answers m) :
    d.LeadsTo (e.attempt m).1 := by
  show d.LeadsTo { e with screen := (e.screen.attempt m).1 }
  rw [Screen.attempt]
  cases hm : e.screen.step m with
  | none => exact h
  | some ses => exact h.move ha hm

/-- A dashboard tries several moves, each of which can come next whenever it is tried. -/
theorem attemptAll (h : d.LeadsTo e) {ms : List Screen.Move}
    (ha : ∀ f : Dashboard, e.LeadsTo f → ∀ m ∈ ms, f.Answers m) :
    d.LeadsTo (e.attemptAll ms).1 := by
  induction ms generalizing e with
  | nil => exact h
  | cons m ms ih =>
      have hnext := LeadsTo.refl.attempt (ha e .refl m List.mem_cons_self)
      refine ih (e := (e.attempt m).1) (h.trans hnext) ?_
      intro f hf m' hm'
      exact ha f (hnext.trans hf) m' (List.mem_cons_of_mem _ hm')

/-- Requests go out one after the other. -/
theorem sendAll (h : d.LeadsTo e) (is : List Nat) :
    d.LeadsTo { e with screen := { e.screen with
      loader := (e.screen.loader.attemptAll (is.map .send)).1 } } := by
  induction is generalizing e with
  | nil => exact h
  | cons i is ih =>
      have hsend : d.LeadsTo { e with screen := (e.screen.attempt (.send i)).1 } :=
        h.attempt trivial
      rw [Screen.attempt_load rfl] at hsend
      exact ih hsend

/-- An intact screen's engine notices what it has not noticed, and then every request goes out. -/
theorem settleScreen (h : d.LeadsTo e) (hi : e.screen.Intact) :
    d.LeadsTo { e with screen := e.screen.settle.1 } := by
  have hwake : d.LeadsTo { e with screen := (e.screen.attempt .wake).1 } := h.attempt trivial
  rw [Screen.attempt_list rfl, ← hi.settle_listing] at hwake
  exact hwake.sendAll _

/-- The backend answers queries that are in flight; what is not any more needs no answer. -/
theorem answerQueries (h : d.LeadsTo e) {qs : List (Nat × Criteria)}
    (hqs : ∀ q ∈ qs, q ∈ e.screen.listing.engine.inFlight ∨
      ∀ c, (q.1, c) ∉ e.screen.listing.engine.inFlight) :
    d.LeadsTo (e.answerQueries qs).1 := by
  induction qs generalizing e with
  | nil => exact h
  | cons q qs ih =>
      have ⟨hhead, htail⟩ := List.forall_mem_cons.mp hqs
      -- The other queries are asked about after this answer, so the premise has to survive it.
      refine ih (e := (e.attempt (.respond q.1 (.ok (e.backend.entities q.2)))).1) ?_ ?_
      · rcases hhead with hin | hout
        · exact h.attempt ⟨q.2, hin, rfl⟩
        · have hoff : e.screen.listing.enabled
              (.respond q.1 (.ok (e.backend.entities q.2))) = false :=
            Bool.eq_false_iff.mpr fun he => (enabled_respond_iff.mp he).2.elim hout
          show d.LeadsTo { e with screen := (e.screen.attempt _).1 }
          rw [Screen.attempt_list rfl, attempt_of_not_enabled hoff]
          exact h
      · intro q' hq'
        have hmem := fun c => Screen.mem_inFlight_attempt_respond (s := e.screen) (t := q.1)
          (o := .ok (e.backend.entities q.2)) (q := (q'.1, c))
        -- Either the answer takes the token out of flight, or it leaves the query where it was.
        by_cases ht : e.screen.listing.engine.running = true → q'.1 ≠ q.1
        · rcases htail q' hq' with hin | hout
          · exact .inl ((hmem q'.2).mpr ⟨hin, ht⟩)
          · exact .inr fun c hc => hout c ((hmem c).mp hc).1
        · exact .inr fun c hc => ht ((hmem c).mp hc).2

/-- What the backend says to an open request is its answer now and later. -/
theorem answers_of_mem (h : d.LeadsTo e) {m : Screen.Move} (hm : m ∈ d.suggestionAnswers) :
    e.Answers m := by
  obtain ⟨⟨r, i⟩, hr, hsome⟩ := List.mem_filterMap.mp hm
  have hget : d.screen.loader.requests[i]? = some r := List.mem_zipIdx_iff_getElem?.mp hr
  obtain ⟨r', hr', hkind⟩ := h.request hget
  simp only at hsome
  split at hsome
  · obtain rfl := Option.some.inj hsome
    exact ⟨r', hr', by rw [hkind, h.backend_eq]⟩
  · cases hsome

/-- **What a dashboard does on its own is one of the things that can happen.** -/
theorem settle (hi : e.screen.Intact) : e.LeadsTo e.settle.1 := by
  have hscreen := LeadsTo.refl.settleScreen hi
  have hanswered : ∀ ms, LeadsTo { e with screen := e.screen.settle.1 }
      (Dashboard.answerQueries { e with screen := e.screen.settle.1, elapsed := e.elapsed + ms }
        e.screen.settle.1.listing.engine.inFlight).1 := by
    intro ms
    exact (LeadsTo.refl.pass ms).answerQueries fun q hq => .inl hq
  unfold Dashboard.settle
  refine (hscreen.trans (hanswered _)).attemptAll ?_
  -- The requests that were open before the queries were answered are open still, or done with.
  intro f hf m hm
  exact ((hanswered _).trans hf).answers_of_mem hm

end LeadsTo

end Dashboard

end Lookout
