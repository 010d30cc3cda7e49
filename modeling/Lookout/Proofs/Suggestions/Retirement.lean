import Lookout.Proofs.Suggestions.Trace

/-! # Loaders that were deactivated
Nothing takes a request back. When a loader is deactivated or goes away, the requests of its newest
activation may not even have gone out, and all of them go on: they go out, and their outcomes come in.
This file shows that **they change nothing that is published**, as long as nobody activates the loader
again.

* `Dated`: no request carries the number of an activation that is still to come; kept by every move.
* `Silent`: a loader whose requests are all out of date; kept by every move but an activation, and
  nothing is published meanwhile.
* `Dated.silent_deactivate`, `Dated.silent_drop`: how a loader becomes silent. -/

namespace Lookout.Suggestions.Loader

/-! ## The numbers of requests -/

/-- A loader is **dated** if its requests carry no number above that of the newest activation. -/
def Dated (l : Loader) : Prop := ∀ r ∈ l.requests, r.activation ≤ l.activation

/-- A request that gets on carries the number it had. -/
theorem activation_of_mem_advance {l : Loader} {index : Nat} {p : Progress} {r : Request}
    (h : r ∈ (l.advance index p).requests) : ∃ q ∈ l.requests, q.activation = r.activation := by
  obtain ⟨i, hi⟩ := List.getElem?_of_mem h
  rw [getElem?_advance] at hi
  obtain ⟨q, hq, rfl⟩ := Option.map_eq_some_iff.mp hi
  refine ⟨q, List.mem_of_getElem? hq, ?_⟩
  split <;> rfl

/-- Taking an outcome retires no activation. -/
@[simp] theorem activation_receive (l : Loader) (i : Nat) (r : Request) (o : Outcome) :
    (l.receive i r o).activation = l.activation := by
  unfold receive
  split <;> rfl

namespace Dated

variable {l l' : Loader}

/-- No move gives a number to a request that is still to come. -/
theorem step (h : l.Dated) {m : Move} {es : List Event} (hm : l.step m = some (l', es)) :
    l'.Dated := by
  cases hm using step_cases with
  | activate =>
      intro r hr
      rcases List.mem_append.mp hr with hr | hr
      · exact Nat.le_succ_of_le (h r hr)
      · obtain ⟨k, -, rfl⟩ := List.mem_map.mp hr
        exact Nat.le_refl _
  | deactivate =>
      intro r hr
      rw [requests_deactivate] at hr
      rw [activation_deactivate]
      exact Nat.le_succ_of_le (h r hr)
  | drop => exact fun r hr => Nat.le_succ_of_le (h r hr)
  | send =>
      intro r hr
      obtain ⟨q, hq, he⟩ := activation_of_mem_advance hr
      exact he ▸ h q hq
  | receive i o q =>
      intro r hr
      rw [requests_receive] at hr
      obtain ⟨q', hq, he⟩ := activation_of_mem_advance hr
      rw [activation_receive]
      exact he ▸ h q' hq

end Dated

/-- Along every run the numbers of requests are those of activations that have happened. -/
theorem LeadsTo.dated {l k : Loader} {j : History} (h : l.LeadsTo j k) (hl : l.Dated) : k.Dated := by
  induction h with
  | refl => exact hl
  | step _ hm ih => exact ih.step hm

/-- A loader that was never activated has no requests. -/
theorem dated_ofLimit (limit : Nat) : (ofLimit limit).Dated := fun _ hr => nomatch hr

/-! ## Silent loaders -/

/-- A loader is **silent** if none of its requests belongs to the newest activation, and retiring
that would change nothing either. -/
structure Silent (l : Loader) : Prop where
  /-- The requests are out of date. -/
  lt_activation : ∀ r ∈ l.requests, r.activation < l.activation
  /-- Nothing is awaited that could be abandoned, or nobody is there to do so. -/
  settled_or_gone : l.panel.isSettled = true ∨ l.live = false

/-- A loader that is deactivated is silent. -/
theorem Dated.silent_deactivate {l : Loader} (h : l.Dated) : l.deactivate.Silent where
  lt_activation := by
    intro r hr
    rw [requests_deactivate] at hr
    rw [activation_deactivate]
    exact Nat.lt_succ_of_le (h r hr)
  settled_or_gone := by
    rw [panel_deactivate]
    exact .inl rfl

/-- A loader that goes away is silent. -/
theorem Dated.silent_drop {l : Loader} (h : l.Dated) :
    Silent { l with activation := l.activation + 1, live := false } :=
  ⟨fun r hr => Nat.lt_succ_of_le (h r hr), .inr rfl⟩

namespace Silent

variable {l l' : Loader}

/-- **No move gets a silent loader to publish anything**, except that somebody activates it. -/
theorem step (h : l.Silent) {m : Move} {es : List Event} (hm : l.step m = some (l', es))
    (hcall : m = .activate → l.live = false) :
    l'.Silent ∧ l'.panel = l.panel ∧ l'.publications = l.publications := by
  cases hm using step_cases with
  | activate _ _ hlive =>
      rw [hcall rfl] at hlive
      cases hlive
  | deactivate _ _ hlive =>
      have hsettled : l.panel.isSettled = true := h.settled_or_gone.resolve_right (by simp [hlive])
      have hnext : l.deactivate = { l with activation := l.activation + 1 } := by
        rw [deactivate, if_pos hsettled]
      rw [hnext]
      exact ⟨⟨fun r hr => Nat.lt_succ_of_lt (h.lt_activation r hr), .inl hsettled⟩, rfl, rfl⟩
  | drop =>
      exact ⟨⟨fun r hr => Nat.lt_succ_of_lt (h.lt_activation r hr), .inr rfl⟩, rfl, rfl⟩
  | send i =>
      refine ⟨⟨fun r hr => ?_, h.settled_or_gone⟩, rfl, rfl⟩
      obtain ⟨q, hq, he⟩ := activation_of_mem_advance hr
      exact he ▸ h.lt_activation q hq
  | receive i o r _ _ hr =>
      -- The request belongs to an activation that was retired, so its outcome is not looked at.
      have hlt := h.lt_activation r (List.mem_of_getElem? hr)
      rw [receive, if_neg (Nat.ne_of_lt hlt)]
      refine ⟨⟨fun r hr => ?_, h.settled_or_gone⟩, rfl, rfl⟩
      obtain ⟨q, hq, he⟩ := activation_of_mem_advance hr
      exact he ▸ h.lt_activation q hq

/-- **A silent loader publishes nothing**, whatever is tried, as long as nobody activates it. -/
theorem attemptAll (h : l.Silent) {ms : List Move} (hcall : .activate ∈ ms → l.live = false) :
    (l.attemptAll ms).1.panel = l.panel ∧ (l.attemptAll ms).1.publications = l.publications := by
  induction ms generalizing l with
  | nil => exact ⟨rfl, rfl⟩
  | cons m ms ih =>
      rw [attemptAll_cons, attempt]
      cases hm : l.step m with
      | none => exact ih h fun ha => hcall (List.mem_cons_of_mem _ ha)
      | some les =>
          obtain ⟨l', es⟩ := les
          obtain ⟨hnext, hpanel, hpubs⟩ := h.step hm fun ha => hcall (ha ▸ List.mem_cons_self)
          -- Whoever is gone now stays gone, so that later calls do nothing either.
          have hgone : .activate ∈ ms → l'.live = false := fun ha =>
            Bool.eq_false_iff.mpr fun hlive =>
              Bool.eq_false_iff.mp (hcall (List.mem_cons_of_mem _ ha)) (live_of_step hm hlive)
          obtain ⟨hp, hn⟩ := ih hnext hgone
          exact ⟨hp.trans hpanel, hn.trans hpubs⟩

end Silent

/-! ## Requests go on -/

/-- Requests **go on** from one loader to another if each of them may go out and come in there as
before, with any outcome. -/
def RequestsGoOn (l l' : Loader) : Prop :=
  ∀ i, (l'.step (.send i)).isSome = (l.step (.send i)).isSome ∧
    ∀ o, (l'.step (.receive i o)).isSome = (l.step (.receive i o)).isSome

/-- Whether a request can get on does not depend on what was retired. -/
theorem requestsGoOn_of_eq {l l' : Loader} (h : l'.requests = l.requests) : l.RequestsGoOn l' := by
  intro i
  simp only [step, h]
  constructor
  · split <;> rfl
  · intro o
    split
    · split <;> rfl
    · rfl

end Lookout.Suggestions.Loader
