import Lookout.Proofs.Screen.Trace

/-! # The two parts of a screen
A screen runs its listing and its loader side by side. This file says that nothing passes between
them: **whatever a screen does, each of its parts does on its own**, without the moves of the other.
Only leaving the screen is a move of both.

* `Move.listing`, `Move.loading`: what a move of the screen is for each of the parts.
* `Whole`: store, engine and loader work as long as the screen is open, and no longer.
* `Whole.listing_attemptAll`, `Whole.loader_attemptAll`: a run of the screen, part by part. -/

namespace Lookout

open Listing Suggestions

namespace Screen

@[simp] theorem attemptAll_nil (s : Screen) : (s.attemptAll []).1 = s := rfl

@[simp] theorem attemptAll_cons (s : Screen) (m : Move) (ms : List Move) :
    (s.attemptAll (m :: ms)).1 = ((s.attempt m).1.attemptAll ms).1 := rfl

/-! ## What a move is for each part -/

/-- What a move is for the **listing**. -/
def Move.listing : Move → List Listing.Move
  | .mutate m => [.mutate m]
  | .wake => [.wake]
  | .respond t o => [.respond t o]
  | .send _ | .receive _ _ => []
  | .deactivate => [.dropStore, .deactivate]

/-- What a move is for the **loader**. -/
def Move.loading : Move → List Loader.Move
  | .send i => [.send i]
  | .receive i o => [.receive i o]
  | .mutate _ | .wake | .respond _ _ => []
  | .deactivate => [.deactivate, .drop]

/-- Outcomes of queries are for the listing. -/
theorem listing_respond (as : List (Nat × Listing.Outcome)) :
    (as.map fun a => Move.respond a.1 a.2).flatMap Move.listing =
      as.map fun a => .respond a.1 a.2 := by
  rw [List.flatMap_map, List.map_eq_flatMap]
  rfl

/-- Outcomes of queries are not for the loader. -/
theorem loading_respond (as : List (Nat × Listing.Outcome)) :
    (as.map fun a => Move.respond a.1 a.2).flatMap Move.loading = [] := by
  rw [List.flatMap_map]
  exact List.flatMap_eq_nil_iff.mpr fun _ _ => rfl

/-- Outcomes of requests are not for the listing. -/
theorem listing_receive (as : List (Nat × Suggestions.Outcome)) :
    (as.map fun a => Move.receive a.1 a.2).flatMap Move.listing = [] := by
  rw [List.flatMap_map]
  exact List.flatMap_eq_nil_iff.mpr fun _ _ => rfl

/-- Outcomes of requests are for the loader. -/
theorem loading_receive (as : List (Nat × Suggestions.Outcome)) :
    (as.map fun a => Move.receive a.1 a.2).flatMap Move.loading =
      as.map fun a => .receive a.1 a.2 := by
  rw [List.flatMap_map, List.map_eq_flatMap]
  rfl

/-- A screen is **whole** if it is intact and its loader is live as long as it is open, and no
longer. -/
structure Whole (s : Screen) : Prop where
  /-- Store and engine work as long as the screen is open. -/
  intact : s.Intact
  /-- The loader is live iff the screen is open. -/
  live_eq : s.loader.live = s.isOpen

/-- A screen that opens is whole. -/
theorem whole_activate (defaults : Criteria) (limit : Nat) : (activate defaults limit).1.Whole :=
  ⟨intact_activate defaults limit, rfl⟩

/-- The loader of a screen that is left is gone. -/
theorem live_close (s : Screen) : s.close.1.loader.live = false := by
  show ((s.loader.attempt .deactivate).1.attempt .drop).1.live = false
  generalize (s.loader.attempt .deactivate).1 = l
  simp only [Loader.attempt, Loader.step]
  split
  · rfl
  · next h => exact Bool.not_eq_true _ ▸ h

namespace Whole

variable {s : Screen}

/-- Trying a move leaves a whole screen whole. -/
theorem attempt (h : s.Whole) (m : Move) : (s.attempt m).1.Whole := by
  refine ⟨h.intact.attempt m, ?_⟩
  cases hm : s.step m with
  | none =>
      rw [Screen.attempt, hm]
      exact h.live_eq
  | some ses =>
      obtain ⟨s', es⟩ := ses
      rw [Screen.attempt, hm]
      show s'.loader.live = s'.isOpen
      cases hm using step_cases with
      | mutate => exact h.live_eq
      | wake => exact h.live_eq
      | respond => exact h.live_eq
      | send i l _ _ hl =>
          obtain ⟨-, -, -, rfl⟩ := step_send_eq_some hl
          exact h.live_eq
      | receive i o l _ _ hl =>
          obtain ⟨r, -, -, rfl⟩ := step_receive_eq_some hl
          exact (Loader.live_receive s.loader i r o).trans h.live_eq
      | deactivate _ ho =>
          rw [live_close, isOpen, h.intact.listing_close ho]
          rfl

/-- Trying several moves leaves a whole screen whole. -/
theorem attemptAll (h : s.Whole) (ms : List Move) : (s.attemptAll ms).1.Whole := by
  induction ms generalizing s with
  | nil => exact h
  | cons m ms ih => exact ih (h.attempt m)

/-- Trying a move of the screen is trying its moves of the listing there. -/
theorem listing_attempt (h : s.Whole) (m : Move) :
    (s.attempt m).1.listing = (s.listing.attemptAll m.listing).1 := by
  cases m with
  | mutate m => rw [attempt_list rfl]; rfl
  | wake => rw [attempt_list rfl]; rfl
  | respond t o => rw [attempt_list rfl]; rfl
  | send i => rw [attempt_load rfl]; rfl
  | receive i o => rw [attempt_load rfl]; rfl
  | deactivate =>
      rw [Screen.attempt, Screen.step]
      cases ho : s.isOpen with
      | true => rfl
      | false =>
          -- A screen that was left before has neither a store to drop nor an engine to stop.
          have hstore : s.listing.enabled .dropStore = false := h.intact.storeOpen_eq.trans ho
          have hheld : s.listing.enabled .deactivate = false := ho
          show s.listing = ((s.listing.attempt .dropStore).1.attempt .deactivate).1
          rw [attempt_of_not_enabled hstore, attempt_of_not_enabled hheld]

/-- Trying a move of the screen is trying its moves of the loader there. -/
theorem loader_attempt (h : s.Whole) (m : Move) :
    (s.attempt m).1.loader = (s.loader.attemptAll m.loading).1 := by
  cases m with
  | mutate m => rw [attempt_list rfl]; rfl
  | wake => rw [attempt_list rfl]; rfl
  | respond t o => rw [attempt_list rfl]; rfl
  | send i => rw [attempt_load rfl]; rfl
  | receive i o => rw [attempt_load rfl]; rfl
  | deactivate =>
      rw [Screen.attempt, Screen.step]
      cases ho : s.isOpen with
      | true => rfl
      | false =>
          have hlive : s.loader.live = false := h.live_eq.trans ho
          show s.loader = ((s.loader.attempt .deactivate).1.attempt .drop).1
          rw [Loader.attempt_of_not_live hlive (.inr (.inl rfl)),
            Loader.attempt_of_not_live hlive (.inr (.inr rfl))]

/-- **The listing of a run** is the listing's own run. -/
theorem listing_attemptAll (h : s.Whole) (ms : List Move) :
    (s.attemptAll ms).1.listing = (s.listing.attemptAll (ms.flatMap Move.listing)).1 := by
  induction ms generalizing s with
  | nil => rfl
  | cons m ms ih =>
      rw [attemptAll_cons, ih (h.attempt m), h.listing_attempt, List.flatMap_cons,
        Listing.attemptAll_append]

/-- **The loader of a run** is the loader's own run. -/
theorem loader_attemptAll (h : s.Whole) (ms : List Move) :
    (s.attemptAll ms).1.loader = (s.loader.attemptAll (ms.flatMap Move.loading)).1 := by
  induction ms generalizing s with
  | nil => rfl
  | cons m ms ih =>
      rw [attemptAll_cons, ih (h.attempt m), h.loader_attempt, List.flatMap_cons,
        Loader.attemptAll_append]

end Whole

namespace Trace

variable {defaults : Criteria} {limit : Nat} {j : Journal} {s : Screen}

/-- A screen stays whole. -/
theorem whole (h : Trace defaults limit j s) : s.Whole := by
  induction h with
  | start => exact whole_activate _ _
  | @step j s s' m es _ hm ih =>
      have hs := ih.attempt m
      rw [Screen.attempt, hm] at hs
      exact hs

/-- The loader of a screen has a run of its own. -/
theorem loader (h : Trace defaults limit j s) :
    ∃ history, (Loader.ofLimit limit).LeadsTo history s.loader := by
  induction h with
  | start => exact Loader.LeadsTo.refl.attemptAll [.activate]
  | @step j s s' m es h hm ih =>
      obtain ⟨history, hl⟩ := ih
      have hs := h.whole.loader_attempt m
      rw [Screen.attempt, hm] at hs
      obtain ⟨later, hlater⟩ := hl.attemptAll m.loading
      exact ⟨later, hs ▸ hlater⟩

end Trace

end Screen

end Lookout
