import Lookout.Proofs.Suggestions.Activations

/-! # A panel at rest
A loader whose requests are all finished has nothing left to wait for. This file shows that its panel
then **awaits nothing**, and that a loader gets there by sending every request once and taking what
comes.

* `LeadsTo.at_rest`: what such a loader shows.
* `settle_sends`, `finished_of_received`: the way there. -/

namespace Lookout.Suggestions.Loader

/-- The activation in force has happened. -/
theorem lt_of_inForce? {j : History} {n : Nat} (h : inForce? j = some n) : n < activations j := by
  induction j with
  | nil => cases h
  | cons e j ih =>
      cases e with
      | activated =>
          obtain rfl : activations j = n := Option.some.inj h
          exact Nat.lt_succ_self _
      | deactivated => cases h
      | completed i o => exact ih h

/-- **A live loader whose requests are all finished awaits nothing.** -/
theorem LeadsTo.at_rest {limit : Nat} {j : History} {l : Loader} (h : (ofLimit limit).LeadsTo j l)
    (hlive : l.live = true) (hall : ∀ r ∈ l.requests, r.progress = .finished) :
    l.panel.pending = [] := by
  have ht := h.tracked hlive
  cases hn : inForce? j with
  | none => exact ht.pending_nil hn
  | some n =>
      rw [ht.pending_eq hn]
      refine List.filter_eq_nil_iff.mpr fun k _ hnone => ?_
      have hlt : indexOf n k < l.requests.length := by
        have hindex := indexOf_lt n k
        have hforce := lt_of_inForce? hn
        rw [ht.length_eq]
        omega
      -- The request for the kind is finished, so its outcome is known.
      obtain ⟨m, hm⟩ := ht.placed (List.getElem?_eq_getElem hlt)
      exact hm.open_iff.mpr (Option.isNone_iff_eq_none.mp hnone) (hall _ (List.getElem_mem hlt))

/-! ## Sending and receiving -/

/-- A move **takes** the request with an index from one stage of its progress to another one if it
changes nothing else about the requests. -/
def Takes (p q : Progress) (i : Nat) (m : Move) : Prop :=
  ∀ (l : Loader) (k : Nat), (l.attempt m).1.requests[k]? = l.requests[k]?.map fun r =>
    if k = i ∧ r.progress = p then { r with progress := q } else r

/-- A request goes out if it was waiting. -/
theorem takes_send (i : Nat) : Takes .waiting .sent i (.send i) := by
  intro l k
  rw [attempt]
  cases hs : l.step (.send i) with
  | some les =>
      obtain ⟨l', es⟩ := les
      obtain ⟨q, a, hr, rfl⟩ := step_send_eq_some hs
      show (l.advance i .sent).requests[k]? = _
      rw [getElem?_advance]
      by_cases hk : i = k
      · subst hk
        simp [hr]
      · simp [hk, Ne.symm hk]
  | none =>
      show l.requests[k]? = _
      cases hr : l.requests[k]? with
      | none => rfl
      | some r =>
          rw [Option.map_some, if_neg]
          rintro ⟨rfl, hwait⟩
          obtain ⟨q, a, p⟩ := r
          obtain rfl : p = .waiting := hwait
          simp [step, hr] at hs

/-- An outcome ends its request if that was sent. -/
theorem takes_receive (i : Nat) (o : Outcome) : Takes .sent .finished i (.receive i o) := by
  intro l k
  rw [attempt]
  cases hs : l.step (.receive i o) with
  | some les =>
      obtain ⟨l', es⟩ := les
      obtain ⟨r, hr, hsent, rfl⟩ := step_receive_eq_some hs
      show (l.receive i r o).requests[k]? = _
      rw [requests_receive, getElem?_advance]
      by_cases hk : i = k
      · subst hk
        simp [hr, hsent]
      · simp [hk, Ne.symm hk]
  | none =>
      show l.requests[k]? = _
      cases hr : l.requests[k]? with
      | none => rfl
      | some r =>
          rw [Option.map_some, if_neg]
          rintro ⟨rfl, hsent⟩
          simp [step, hr, hsent] at hs

/-- Moves that take requests from one stage to another one may be made one after the other. -/
theorem Takes.attemptAll {α : Type} {p q : Progress} (hpq : q ≠ p) {index : α → Nat} {move : α → Move}
    (h : ∀ a, Takes p q (index a) (move a)) (as : List α) (l : Loader) (k : Nat) :
    (l.attemptAll (as.map move)).1.requests[k]? = l.requests[k]?.map fun r =>
      if k ∈ as.map index ∧ r.progress = p then { r with progress := q } else r := by
  induction as generalizing l with
  | nil =>
      simp
  | cons a as ih =>
      rw [List.map_cons, attemptAll_cons, ih, h a l k, Option.map_map]
      congr 1
      funext r
      -- What was taken once is not taken again, since the stages differ.
      by_cases hk : k = index a <;> by_cases hp : r.progress = p <;> simp [hk, hp, hpq]

/-- After every request that was waiting went out, none is waiting. -/
theorem settle_sends (l : Loader) : ∀ r ∈ l.settle.1.requests, r.progress ≠ .waiting := by
  intro r hr
  obtain ⟨k, hk⟩ := List.mem_iff_getElem?.mp hr
  have hget : l.settle.1.requests[k]? = _ :=
    Takes.attemptAll (by decide) takes_send (List.range l.requests.length) l k
  rw [hget] at hk
  obtain ⟨q, hq, rfl⟩ := Option.map_eq_some_iff.mp hk
  have hlt : k < l.requests.length := (List.getElem?_eq_some_iff.mp hq).1
  split
  · nofun
  · next hnot =>
      intro hwait
      exact hnot ⟨by simpa using hlt, hwait⟩

/-- Once an outcome came in for every request that was sent, and none was waiting, all are
finished. -/
theorem finished_of_received {l : Loader} (hsent : ∀ r ∈ l.requests, r.progress ≠ .waiting)
    {outcomes : List (Nat × Outcome)}
    (hall : ∀ k r, l.requests[k]? = some r → r.progress = .sent → k ∈ outcomes.map Prod.fst) :
    ∀ r ∈ (l.attemptAll (outcomes.map fun a => .receive a.1 a.2)).1.requests,
      r.progress = .finished := by
  intro r hr
  obtain ⟨k, hk⟩ := List.mem_iff_getElem?.mp hr
  have htakes : ∀ a : Nat × Outcome, Takes .sent .finished a.1 (.receive a.1 a.2) := fun a =>
    takes_receive a.1 a.2
  rw [Takes.attemptAll (by decide) htakes] at hk
  obtain ⟨q, hq, rfl⟩ := Option.map_eq_some_iff.mp hk
  split
  · rfl
  · next hnot =>
      have hwaiting := hsent q (List.mem_of_getElem? hq)
      cases hp : q.progress with
      | waiting => exact absurd hp hwaiting
      | sent => exact absurd ⟨hall k q hq hp, hp⟩ hnot
      | finished => rfl

end Lookout.Suggestions.Loader
