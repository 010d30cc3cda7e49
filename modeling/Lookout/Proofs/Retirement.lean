import Lookout.Proofs.Polling.Retirement
import Lookout.Proofs.Screen.Parts
import Lookout.Proofs.Suggestions.Retirement

/-! # After the end
A listing, a poller, a loader and the screen made of two of them each come to an end in a way of their
own: a task is stopped, a number is retired, a store goes away. Whatever they were waiting for may
still come. This file shows that **what subscribers see at the end is what they see for ever**.

* `Listing.IsLeft`: a listing that was left; its engine stands still.
* `Screen.Whole.listing_close`, `Screen.Whole.loader_close`: what leaving a screen does to its parts.
* `published_for_good`: the whole statement, for each of them. -/

namespace Lookout

open Listing Suggestions

namespace Listing

/-- A listing **is left** if nobody holds it and its engine was stopped. -/
structure IsLeft (l : Listing) : Prop where
  /-- Nobody looks at the listing. -/
  held_eq : l.held = false
  /-- The engine does not work. -/
  running_eq : l.engine.running = false

/-- A listing that is left is left from then on. -/
theorem isLeft_deactivate (l : Listing) : (l.after .deactivate).IsLeft := ⟨rfl, rfl⟩

namespace IsLeft

variable {l l' : Listing}

/-- A move of a listing that was left changes the store at most, and sends no query. -/
theorem step (h : l.IsLeft) {m : Move} {es : List Event} (hm : l.step m = some (l', es)) :
    l'.IsLeft ∧ l'.engine = l.engine ∧ ∀ t text offset, .queryStarted t text offset ∉ es := by
  obtain ⟨he, rfl, rfl⟩ := step_eq_some_iff.mp hm
  cases m with
  | mutate m => exact ⟨⟨h.held_eq, h.running_eq⟩, rfl, by simp [report, Mutation.published]⟩
  | wake => simp [enabled, h.running_eq] at he
  | respond t o => simp [enabled, h.running_eq] at he
  | dropStore => exact ⟨⟨h.held_eq, h.running_eq⟩, rfl, by simp [report]⟩
  | close => simp [enabled, h.running_eq] at he
  | deactivate => simp [enabled, h.held_eq] at he

/-- **The engine of a listing that was left stands still**, whatever is tried. -/
theorem attemptAll (h : l.IsLeft) (ms : List Move) :
    (l.attemptAll ms).1.engine = l.engine ∧
      ∀ t text offset, .queryStarted t text offset ∉ (l.attemptAll ms).2 := by
  induction ms generalizing l with
  | nil => exact ⟨rfl, fun _ _ _ => List.not_mem_nil⟩
  | cons m ms ih =>
      show ((l.attempt m).1.attemptAll ms).1.engine = _ ∧
        ∀ t text offset, _ ∉ (l.attempt m).2 ++ ((l.attempt m).1.attemptAll ms).2
      rw [attempt]
      cases hm : l.step m with
      | none => exact ih h
      | some les =>
          obtain ⟨l', es⟩ := les
          obtain ⟨hnext, hengine, hes⟩ := h.step hm
          obtain ⟨hlater, hfs⟩ := ih hnext
          refine ⟨hlater.trans hengine, ?_⟩
          intro t text offset hmem
          rcases List.mem_append.mp hmem with hmem | hmem
          · exact hes t text offset hmem
          · exact hfs t text offset hmem

end IsLeft

end Listing

namespace Screen

variable {s : Screen}

/-- The listing of a whole screen that is left is left itself, and its view stays. -/
theorem Whole.listing_close (h : s.Whole) (ho : s.isOpen = true) :
    s.close.1.listing.IsLeft ∧
      s.close.1.listing.engine.published = s.listing.engine.published := by
  rw [h.intact.listing_close ho]
  exact ⟨isLeft_deactivate _, rfl⟩

/-- The loader of a whole screen that is left is deactivated first, and then goes away. -/
theorem Whole.loader_close (h : s.Whole) (ho : s.isOpen = true) :
    s.close.1.loader =
      { s.loader.deactivate with activation := s.loader.activation + 2, live := false } := by
  have hlive : s.loader.live = true := h.live_eq.trans ho
  have hdeactivated : s.loader.deactivate.live = true := (live_deactivate s.loader).trans hlive
  show ((s.loader.attempt .deactivate).1.attempt .drop).1 = _
  have hfirst : (s.loader.attempt .deactivate).1 = s.loader.deactivate := by
    rw [Loader.attempt, Loader.step, if_pos hlive]
    rfl
  rw [hfirst, Loader.attempt, Loader.step, if_pos hdeactivated, activation_deactivate]
  rfl

/-- The loader of a screen that is left is silent, awaits nothing and keeps its lists. -/
theorem Whole.silent_close (h : s.Whole) (ho : s.isOpen = true) (hd : s.loader.Dated) :
    s.close.1.loader.Silent ∧ s.close.1.loader.panel = ⟨s.loader.panel.lists, []⟩ := by
  rw [h.loader_close ho]
  refine ⟨⟨?_, .inr rfl⟩, panel_deactivate s.loader⟩
  intro r hr
  have hle := hd r ((requests_deactivate s.loader) ▸ hr)
  exact Nat.lt_of_le_of_lt hle (Nat.lt_add_of_pos_right (by decide))

end Screen

/-! ## What subscribers see for good -/

/-- **What was published at the end stays**, in every state and whatever is tried later. The engine
of a listing that was left stands still, and sends no query. A poller that was unmounted stands still
in every fleet, starts no fetch and makes no call. A loader that was deactivated awaits nothing, keeps
its lists and publishes nothing until it is activated, and one that is gone publishes nothing at all,
though all the requests they made may go on as before. And when a screen is left, its view stays, its
panel awaits nothing and keeps its lists, and both stay so. -/
theorem published_for_good :
    (∀ (l l' : Listing) es, l.step .deactivate = some (l', es) →
        l'.engine.published = l.engine.published ∧
        l'.engine.publications = l.engine.publications ∧
        ∀ ms, (l'.attemptAll ms).1.engine = l'.engine ∧
          ∀ t text offset, .queryStarted t text offset ∉ (l'.attemptAll ms).2) ∧
      (∀ (f : Polling.Fleet) i p, f.pollers[i]? = some p → p.running = true →
        ∀ ms, ∃ q, ((f.deactivate i).1.makeAll ms).pollers[i]? = some q ∧
          q.published = p.published ∧ q.publications = p.publications ∧ q.started = p.started ∧
          ((f.deactivate i).1.makeAll ms).callsOf i = f.callsOf i) ∧
      (∀ limit j l l' es, (Loader.ofLimit limit).LeadsTo j l → l.step .deactivate = some (l', es) →
        l'.panel = ⟨l.panel.lists, []⟩ ∧ l.RequestsGoOn l' ∧
        ∀ ms, .activate ∉ ms → (l'.attemptAll ms).1.panel = l'.panel ∧
          (l'.attemptAll ms).1.publications = l'.publications) ∧
      (∀ limit j l l' es, (Loader.ofLimit limit).LeadsTo j l → l.step .drop = some (l', es) →
        l'.panel = l.panel ∧ l'.publications = l.publications ∧ l.RequestsGoOn l' ∧
        ∀ ms, (l'.attemptAll ms).1.panel = l'.panel ∧
          (l'.attemptAll ms).1.publications = l'.publications) ∧
      ∀ defaults limit j s s' es, Screen.Trace defaults limit j s →
        s.step .deactivate = some (s', es) →
        s'.listing.engine.published = s.listing.engine.published ∧
        s'.loader.panel = ⟨s.loader.panel.lists, []⟩ ∧
        ∀ ms, (s'.attemptAll ms).1.listing.engine = s'.listing.engine ∧
          (s'.attemptAll ms).1.loader.panel = s'.loader.panel ∧
          (s'.attemptAll ms).1.loader.publications = s'.loader.publications := by
  refine ⟨?_, ?_, ?_, ?_, ?_⟩
  · intro l l' es hm
    obtain ⟨-, rfl, -⟩ := step_eq_some_iff.mp hm
    exact ⟨rfl, rfl, (isLeft_deactivate l).attemptAll⟩
  · intro f i p hp hrun ms
    have h := (Polling.Fleet.retired_deactivate hp hrun).makeAll ms
    exact ⟨p.stop, h.poller_eq, rfl, rfl, rfl, h.calls_eq⟩
  · intro limit j l l' es hl hm
    have hdated := hl.dated (Loader.dated_ofLimit limit)
    cases hm using Loader.step_cases with
    | deactivate =>
        exact ⟨panel_deactivate l, Loader.requestsGoOn_of_eq (requests_deactivate l),
          fun ms hms => hdated.silent_deactivate.attemptAll fun ha => absurd ha hms⟩
  · intro limit j l l' es hl hm
    have hdated := hl.dated (Loader.dated_ofLimit limit)
    cases hm using Loader.step_cases with
    | drop =>
        exact ⟨rfl, rfl, Loader.requestsGoOn_of_eq rfl,
          fun ms => hdated.silent_drop.attemptAll fun _ => rfl⟩
  · intro defaults limit j s s' es hs hm
    obtain ⟨ho, hclose⟩ := Screen.step_deactivate_eq_some_iff.mp hm
    obtain rfl : s' = s.close.1 := congrArg Prod.fst hclose
    obtain ⟨history, hl⟩ := hs.loader
    obtain ⟨hleft, hview⟩ := hs.whole.listing_close ho
    obtain ⟨hsilent, hpanel⟩ := hs.whole.silent_close ho (hl.dated (Loader.dated_ofLimit limit))
    have hwhole := (hs.step hm).whole
    refine ⟨hview, hpanel, ?_⟩
    intro ms
    rw [hwhole.listing_attemptAll, hwhole.loader_attemptAll]
    exact ⟨(hleft.attemptAll _).1, hsilent.attemptAll fun _ => Screen.live_close s⟩

/-- Somebody leaves a screen whose first query is unanswered, whose engine has not noticed a search,
and where the labels were sent for and the features not even that. All of it comes later; the list
shows what it showed, and the panel the one list that was there. -/
theorem published_before_everything_came :
    ∃ j s s' es ms, Screen.Trace .standard 8 j s ∧ s.step .deactivate = some (s', es) ∧
      s.listing.isBehind = true ∧ s.listing.engine.inFlight = [(1, .standard)] ∧
      s.loader.panel.pending = [.labels, .features] ∧
      ms = [.wake, .respond 1 (.ok ⟨[], 7⟩), .receive 1 (.ok [⟨"late"⟩]), .send 2,
        .receive 2 (.ok [⟨"later"⟩])] ∧
      (s'.attemptAll ms).1.loader.sent = SuggestionKind.all ∧
      (s'.attemptAll ms).1.listing.engine.published = s.listing.engine.published ∧
      (s'.attemptAll ms).1.loader.panel = ⟨⟨["prod"], [], []⟩, []⟩ := by
  have h := (Screen.Trace.start : Screen.Trace .standard 8 _ _).attempt (.send 0) rfl
    |>.attempt (.receive 0 (.ok [⟨"prod"⟩])) rfl |>.attempt (.send 1) rfl
    |>.attempt (.mutate (.search "u")) rfl
  obtain ⟨-, -, -, -, hscreen⟩ := published_for_good
  obtain ⟨hview, hpanel, hlater⟩ := hscreen _ _ _ _ _ _ h rfl
  obtain ⟨hengine, hlists, -⟩ := hlater [.wake, .respond 1 (.ok ⟨[], 7⟩),
    .receive 1 (.ok [⟨"late"⟩]), .send 2, .receive 2 (.ok [⟨"later"⟩])]
  exact ⟨_, _, _, _, _, h, rfl, rfl, rfl, rfl, rfl, rfl,
    (congrArg Engine.published hengine).trans hview, hlists.trans hpanel⟩

end Lookout
