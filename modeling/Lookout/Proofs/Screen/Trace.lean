import Lookout.Screen
import Lookout.Proofs.Listing.Trace
import Lookout.Proofs.Suggestions.Trace

/-! # Traces of a screen
A screen makes the moves of its listing and those of its loader in any order, until it is left. This
file says once what a move can be, and what of it the two parts take note of.

* **`step_cases`**: a move taken apart, with what enabled it and what it does to the screen.
* **`Intact`**: store and engine work as long as the screen is open, and no longer; kept by every
  move.
* **`Screen.Trace`**: the screen has come to some state while a journal was written. Every schedule of
  the user's moves and of outcomes from any platform is one, and the listing has the same journal. -/

namespace Lookout

open Listing Suggestions

namespace Screen

/-! ## Moves of a screen -/

/-- A move of the listing is made iff it is enabled there; the loader does not take part. -/
theorem list_eq_some_iff {s s' : Screen} {m : Listing.Move} {es : List Event} :
    s.list m = some (s', es) ↔
      s.listing.enabled m = true ∧ s' = { s with listing := s.listing.after m } ∧
        es = s.listing.report m := by
  constructor
  · intro h
    obtain ⟨⟨l, fs⟩, hl, hs⟩ := Option.map_eq_some_iff.mp h
    obtain ⟨he, rfl, rfl⟩ := step_eq_some_iff.mp hl
    obtain ⟨rfl, rfl⟩ := Prod.mk.inj hs
    exact ⟨he, rfl, rfl⟩
  · rintro ⟨he, rfl, rfl⟩
    rw [list, step_eq_some_iff.mpr ⟨he, rfl, rfl⟩]
    rfl

/-- A move of the loader is made iff it can be made there; the listing does not take part. -/
theorem load_eq_some_iff {s s' : Screen} {m : Loader.Move} {es : List Event} :
    s.load m = some (s', es) ↔
      ∃ l, s.loader.step m = some (l, es) ∧ s' = { s with loader := l } := by
  constructor
  · intro h
    obtain ⟨⟨l, fs⟩, hl, hs⟩ := Option.map_eq_some_iff.mp h
    obtain ⟨rfl, rfl⟩ := Prod.mk.inj hs
    exact ⟨l, hl, rfl⟩
  · rintro ⟨l, hl, rfl⟩
    rw [load, hl]
    rfl

/-- A screen is left at most once. -/
theorem step_deactivate_eq_some_iff {s s' : Screen} {es : List Event} :
    s.step .deactivate = some (s', es) ↔ s.isOpen = true ∧ (s', es) = s.close := by
  rw [step]
  split
  · next ho => simp [ho, eq_comm]
  · next ho => simp [ho]

/-- **What a move can be**, with what enabled it and what it does to the screen. -/
@[elab_as_elim]
theorem step_cases {s : Screen}
    {motive : (m : Move) → (s' : Screen) → (es : List Event) → s.step m = some (s', es) → Prop}
    (mutate : ∀ m h, s.listing.enabled (.mutate m) = true →
      motive (.mutate m) { s with listing := s.listing.after (.mutate m) }
        (s.listing.report (.mutate m)) h)
    (wake : ∀ h, s.listing.enabled .wake = true →
      motive .wake { s with listing := s.listing.after .wake } (s.listing.report .wake) h)
    (respond : ∀ t o h, s.listing.enabled (.respond t o) = true →
      motive (.respond t o) { s with listing := s.listing.after (.respond t o) }
        (s.listing.report (.respond t o)) h)
    (send : ∀ i l es h, s.loader.step (.send i) = some (l, es) →
      motive (.send i) { s with loader := l } es h)
    (receive : ∀ i o l es h, s.loader.step (.receive i o) = some (l, es) →
      motive (.receive i o) { s with loader := l } es h)
    (deactivate : ∀ h, s.isOpen = true → motive .deactivate s.close.1 s.close.2 h)
    {m : Move} {s' : Screen} {es : List Event} (h : s.step m = some (s', es)) :
    motive m s' es h := by
  cases m with
  | mutate m =>
      obtain ⟨he, rfl, rfl⟩ := list_eq_some_iff.mp h
      exact mutate m h he
  | wake =>
      obtain ⟨he, rfl, rfl⟩ := list_eq_some_iff.mp h
      exact wake h he
  | respond t o =>
      obtain ⟨he, rfl, rfl⟩ := list_eq_some_iff.mp h
      exact respond t o h he
  | send i =>
      obtain ⟨l, hl, rfl⟩ := load_eq_some_iff.mp h
      exact send i l es h hl
  | receive i o =>
      obtain ⟨l, hl, rfl⟩ := load_eq_some_iff.mp h
      exact receive i o l es h hl
  | deactivate =>
      obtain ⟨ho, hs⟩ := step_deactivate_eq_some_iff.mp h
      obtain ⟨rfl, rfl⟩ := Prod.mk.inj hs
      exact deactivate h ho

/-- Moves never open a screen. -/
theorem isOpen_of_step {s s' : Screen} {m : Move} {es : List Event} (h : s.step m = some (s', es))
    (ho : s'.isOpen = true) : s.isOpen = true := by
  cases h using step_cases with
  | mutate => exact ho
  | wake => exact ho
  | respond => exact ho
  | send => exact ho
  | receive => exact ho
  | deactivate _ hopen => exact hopen

/-- A request keeps its place and its kind, whatever happens. -/
theorem request_of_step {s s' : Screen} {m : Move} {es : List Event} (h : s.step m = some (s', es))
    {i : Nat} {r : Request} (hr : s.loader.requests[i]? = some r) :
    ∃ r', s'.loader.requests[i]? = some r' ∧ r'.kind = r.kind := by
  cases h using step_cases with
  | mutate => exact ⟨r, hr, rfl⟩
  | wake => exact ⟨r, hr, rfl⟩
  | respond => exact ⟨r, hr, rfl⟩
  | send n l _ _ hl =>
      obtain ⟨-, -, -, rfl⟩ := step_send_eq_some hl
      exact request_advance hr n .sent
  | receive n o l _ _ hl =>
      obtain ⟨q, -, -, rfl⟩ := step_receive_eq_some hl
      exact request_receive hr n q o
  | deactivate => exact ⟨r, (congrArg (·[i]?) (requests_retire s.loader)).trans hr, rfl⟩

/-! ## Open screens -/

/-- A screen is **intact** if its store and its engine work as long as it is open, and no longer. -/
structure Intact (s : Screen) : Prop where
  /-- The store can publish iff the screen is open. -/
  storeOpen_eq : s.listing.storeOpen = s.isOpen
  /-- The engine works iff the screen is open. -/
  running_eq : s.listing.engine.running = s.isOpen

/-- A screen that opens is intact. -/
theorem intact_activate (defaults : Criteria) (limit : Nat) :
    (activate defaults limit).1.Intact :=
  ⟨rfl, rfl⟩

/-- When an intact screen is left, its store goes away and its engine stops. -/
theorem Intact.listing_close {s : Screen} (h : s.Intact) (ho : s.isOpen = true) :
    s.close.1.listing = (s.listing.after .dropStore).after .deactivate := by
  have hstore : s.listing.enabled .dropStore = true := h.storeOpen_eq.trans ho
  have hheld : (s.listing.after .dropStore).enabled .deactivate = true := ho
  show ((s.listing.attempt .dropStore).1.attempt .deactivate).1 = _
  rw [attempt_of_enabled hstore, attempt_of_enabled hheld]

/-- Leaving an intact screen is not noted in the journal of its listing. -/
theorem Intact.trace_close {s : Screen} (h : s.Intact) (ho : s.isOpen = true) {st : Store}
    {j : Journal} {es : List Event} (ht : Trace st j es s.listing) :
    ∃ es', Trace st j es' s.close.1.listing := by
  have hstore : s.listing.enabled .dropStore = true := h.storeOpen_eq.trans ho
  have hheld : (s.listing.after .dropStore).enabled .deactivate = true := ho
  rw [h.listing_close ho]
  exact ⟨_, (ht.dropStore hstore).deactivate hheld⟩

/-- A move leaves an intact screen intact. -/
theorem Intact.step {s s' : Screen} (h : s.Intact) {m : Move} {es : List Event}
    (hm : s.step m = some (s', es)) : s'.Intact := by
  cases hm using step_cases with
  | mutate => exact ⟨h.storeOpen_eq, h.running_eq⟩
  | wake => exact ⟨h.storeOpen_eq, h.running_eq⟩
  | respond t o => exact ⟨h.storeOpen_eq, (running_respond _ t o).trans h.running_eq⟩
  | send => exact ⟨h.storeOpen_eq, h.running_eq⟩
  | receive => exact ⟨h.storeOpen_eq, h.running_eq⟩
  | deactivate _ ho =>
      -- Both flags fall together with the screen's own.
      constructor <;> rw [isOpen, h.listing_close ho] <;> rfl

/-- Trying a move leaves an intact screen intact. -/
theorem Intact.attempt {s : Screen} (h : s.Intact) (m : Move) : (s.attempt m).1.Intact := by
  rw [Screen.attempt]
  cases hm : s.step m with
  | none => exact h
  | some ses => exact h.step hm

/-- The engine of an intact screen never stops on its own. -/
theorem Intact.enabled_close {s : Screen} (h : s.Intact) : s.listing.enabled .close = false := by
  rw [enabled, h.running_eq, h.storeOpen_eq]
  cases s.isOpen <;> simp

/-- While a screen is open, a wait for the list is over only with a view at rest for the criteria it
was about. -/
theorem Intact.settled_view {s : Screen} (h : s.Intact) (ho : s.isOpen = true) {c : Criteria}
    {v : View} (hv : s.listing.settled? (some c) = some v) :
    v = s.listing.engine.published ∧ s.listing.engine.published.loading = false ∧
      s.listing.engine.published.criteria = c := by
  have hrunning : s.listing.engine.running = true := h.running_eq.trans ho
  simp only [Listing.settled?, hrunning, Bool.not_true, Bool.or_false] at hv
  split at hv
  · next hdone =>
      refine ⟨(Option.some.inj hv).symm, ?_⟩
      simpa [View.isSettledFor] using hdone
  · cases hv

/-! ## Trying moves -/

/-- Trying a move of the listing does not touch the loader. -/
theorem attempt_list {s : Screen} {m : Move} {n : Listing.Move} (h : s.step m = s.list n) :
    (s.attempt m).1 = { s with listing := (s.listing.attempt n).1 } := by
  rw [Screen.attempt, h, list, Listing.attempt]
  cases s.listing.step n <;> rfl

/-- Trying a move of the loader does not touch the listing. -/
theorem attempt_load {s : Screen} {m : Move} {n : Loader.Move} (h : s.step m = s.load n) :
    (s.attempt m).1 = { s with loader := (s.loader.attempt n).1 } := by
  rw [Screen.attempt, h, load, Loader.attempt]
  cases s.loader.step n <;> rfl

/-- All that the engine of an intact screen can do on its own is to notice criteria. -/
theorem Intact.settle_listing {s : Screen} (h : s.Intact) :
    s.listing.settle.1 = (s.listing.attempt .wake).1 := by
  have hwake : (s.listing.attempt .wake).1.enabled .close = false := by
    have hnext := (h.attempt .wake).enabled_close
    rw [attempt_list rfl] at hnext
    exact hnext
  show ((s.listing.attempt .wake).1.attempt .close).1 = _
  rw [attempt_of_not_enabled hwake]

/-- An outcome that is tried takes its query out of flight, and no other. -/
theorem mem_inFlight_attempt_respond {s : Screen} {t : Nat} {o : Listing.Outcome}
    {q : Nat × Criteria} :
    q ∈ (s.attempt (.respond t o)).1.listing.engine.inFlight ↔
      q ∈ s.listing.engine.inFlight ∧ (s.listing.engine.running = true → q.1 ≠ t) := by
  rw [attempt_list rfl]
  cases he : s.listing.enabled (.respond t o) with
  | true =>
      obtain ⟨hrunning, -⟩ := enabled_respond_iff.mp he
      rw [attempt_of_enabled he]
      show q ∈ (s.listing.engine.respond t o).inFlight ↔ _
      simp [inFlight_respond, hrunning]
  | false =>
      rw [attempt_of_not_enabled he]
      refine ⟨fun hq => ⟨hq, fun hrunning ht => ?_⟩, And.left⟩
      have hon : s.listing.enabled (.respond t o) = true :=
        enabled_respond_iff.mpr ⟨hrunning, q.2, ht ▸ hq⟩
      rw [hon] at he
      cases he

/-! ## Traces -/

/-- What a move of a screen is, if a journal takes note of it. -/
def Move.entry? (s' : Screen) : Move → Option Listing.Entry
  | .mutate _ => some (.published s'.listing.store.current)
  | .wake => some (.asked s'.listing.engine.machine.latest s'.listing.engine.machine.criteria)
  | .respond t o => some (.answered t o)
  | .send _ | .receive _ _ | .deactivate => none

/-- A **trace**: opened with the defaults and the limit, the screen came to `s` while `j` happened. -/
inductive Trace (defaults : Criteria) (limit : Nat) : Journal → Screen → Prop
  /-- A screen that opens asks for the defaults. -/
  | start : Trace defaults limit [.asked 1 defaults] (activate defaults limit).1
  /-- Any move that can be made may be made. -/
  | step {j : Journal} {s s' : Screen} {m : Move} {es : List Event} (h : Trace defaults limit j s)
      (hm : s.step m = some (s', es)) : Trace defaults limit ((m.entry? s').toList ++ j) s'

namespace Trace

variable {defaults : Criteria} {limit : Nat} {j : Journal} {s : Screen}

/-- A trace goes on with a move that is tried and can be made. -/
theorem attempt (h : Trace defaults limit j s) (m : Move) (hm : (s.step m).isSome = true) :
    Trace defaults limit ((m.entry? (s.attempt m).1).toList ++ j) (s.attempt m).1 := by
  obtain ⟨⟨s', es⟩, hs⟩ := Option.isSome_iff_exists.mp hm
  rw [Screen.attempt, hs]
  exact h.step hs

/-- A screen stays intact. -/
theorem intact (h : Trace defaults limit j s) : s.Intact := by
  induction h with
  | start => exact intact_activate _ _
  | step _ hm ih => exact ih.step hm

/-- The listing of a screen has the journal of the screen. -/
theorem listing (h : Trace defaults limit j s) :
    ∃ es, Listing.Trace (.ofDefaults defaults) j es s.listing := by
  induction h with
  | start => exact ⟨_, .start⟩
  | @step j s s' m es h hm ih =>
      obtain ⟨es, ht⟩ := ih
      cases hm using step_cases with
      | mutate m _ he => exact ⟨_, ht.mutate m he⟩
      | wake _ he => exact ⟨_, ht.wake he⟩
      | respond t o _ he => exact ⟨_, ht.respond t o he⟩
      | send => exact ⟨_, ht⟩
      | receive => exact ⟨_, ht⟩
      | deactivate _ ho => exact h.intact.trace_close ho ht

end Trace

end Screen

end Lookout
