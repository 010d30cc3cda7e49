import Lookout.Listing.Engine

/-! # Traces of a listing
A listing may make its moves in any order in which they are enabled, and the platform may answer
with anything at any time. This file says once what such a run can be.

* **`Journal`**: what an outsider could write down about a run: the criteria published, the queries
  that went out and the outcomes that came back, the newest entry first.
* **`Trace s j es l`**: started for the store `s`, the listing has come to `l` while `j` happened
  and `es` was reported. Every schedule of mutations, wake-ups and outcomes is one.
* **`Trace.moves`**: induction along a trace, with one case for each kind of move and its effect
  written out. Every fact about all reachable listings is proved through it.
* **`Numbered`**: a fact about tokens. A token in the journal was issued, and a query in flight has
  no outcome yet.
* **`Trace.published_eq_view`**: the published view never lags behind the machine, although a stale
  outcome publishes nothing. -/

namespace Lookout.Listing

/-! ## Journals -/

/-- An **entry** of a journal: one thing that happened. -/
inductive Entry
  /-- The store published criteria. -/
  | published (c : Criteria)
  /-- The engine sent the query with this token. -/
  | asked (token : Nat) (c : Criteria)
  /-- The engine took the outcome of the query with this token. -/
  | answered (token : Nat) (outcome : Outcome)

/-- A **journal**: the entries of a run, the newest first. -/
abbrev Journal := List Entry

/-- The **highest** token issued so far; zero if there is none. -/
def highest : Journal → Nat
  | [] => 0
  | .asked t _ :: j => max t (highest j)
  | .published _ :: j => highest j
  | .answered _ _ :: j => highest j

@[simp] theorem highest_asked (t : Nat) (c : Criteria) (j : Journal) :
    highest (.asked t c :: j) = max t (highest j) := rfl

@[simp] theorem highest_answered (t : Nat) (o : Outcome) (j : Journal) :
    highest (.answered t o :: j) = highest j := rfl

/-- The queries that are in flight after a move and were not before; new ones go to the end. -/
def newQueries (l l' : Listing) : List (Nat × Criteria) :=
  l'.engine.inFlight.drop l.engine.inFlight.length

/-- What a move itself is, if a journal takes note of it. -/
def Move.entry? (l' : Listing) : Move → Option Entry
  | .mutate _ => some (.published l'.store.current)
  | .respond t o => some (.answered t o)
  | .wake | .dropStore | .close | .deactivate => none

/-- The entries for a move from `l` to `l'`: the move itself and the queries it sent. -/
def entriesOf (l : Listing) (m : Move) (l' : Listing) : Journal :=
  (newQueries l l').reverse.map (fun q => .asked q.1 q.2) ++ (m.entry? l').toList

/-! ## What a move does to the journal -/

/-- A mutation publishes criteria and sends nothing. -/
@[simp] theorem entriesOf_mutate (l : Listing) (m : Mutation) :
    entriesOf l (.mutate m) (l.after (.mutate m)) = [.published (l.store.mutate m).current] := by
  simp [entriesOf, newQueries, after, Move.entry?]

/-- A wake-up puts one query in flight. -/
@[simp] theorem inFlight_wake (e : Engine) (s : Store) :
    (e.wake s).inFlight = e.inFlight ++ [(e.machine.latest + 1, s.current)] := rfl

/-- A wake-up sends one query, for the criteria in force and with a token never used before. -/
@[simp] theorem entriesOf_wake (l : Listing) :
    entriesOf l .wake (l.after .wake) = [.asked (l.engine.machine.latest + 1) l.store.current] := by
  simp [entriesOf, newQueries, after, Move.entry?]

/-- Taking an outcome issues no token. -/
@[simp] theorem latest_complete (m : Machine) (t : Nat) (o : Outcome) :
    (m.complete t o).latest = m.latest := by
  unfold Machine.complete
  split
  · cases o <;> rfl
  · rfl

/-- Taking an outcome leaves the criteria alone. -/
@[simp] theorem criteria_complete (m : Machine) (t : Nat) (o : Outcome) :
    (m.complete t o).criteria = m.criteria := by
  unfold Machine.complete
  split
  · cases o <;> rfl
  · rfl

/-- Taking an outcome has nothing to do with the store. -/
@[simp] theorem seen_respond (e : Engine) (t : Nat) (o : Outcome) :
    (e.respond t o).seen = e.seen := by
  unfold Engine.respond
  split <;> rfl

/-- Taking an outcome does not stop the engine. -/
@[simp] theorem running_respond (e : Engine) (t : Nat) (o : Outcome) :
    (e.respond t o).running = e.running := by
  unfold Engine.respond
  split <;> rfl

/-- Whatever becomes of an outcome, the queries left in flight are those with other tokens. -/
@[simp] theorem inFlight_respond (e : Engine) (t : Nat) (o : Outcome) :
    (e.respond t o).inFlight = e.inFlight.filter (·.1 ≠ t) := by
  unfold Engine.respond
  split <;> rfl

/-- The engine hands every outcome to its machine, and a stale one changes nothing there. -/
@[simp] theorem machine_respond (e : Engine) (t : Nat) (o : Outcome) :
    (e.respond t o).machine = e.machine.complete t o := by
  unfold Engine.respond
  split
  · next hs => exact (Machine.complete_of_ne (Machine.classify_eq_stale_iff.mp hs) o).symm
  · rfl
  · rfl

/-- An outcome that is taken sends nothing. -/
@[simp] theorem entriesOf_respond (l : Listing) (t : Nat) (o : Outcome) :
    entriesOf l (.respond t o) (l.after (.respond t o)) = [.answered t o] := by
  have hdrop : (l.engine.respond t o).inFlight.drop l.engine.inFlight.length = [] := by
    rw [inFlight_respond]
    exact List.drop_eq_nil_of_le (List.length_filter_le _ _)
  simp only [entriesOf, newQueries, after, Move.entry?, hdrop]
  rfl

@[simp] theorem entriesOf_dropStore (l : Listing) :
    entriesOf l .dropStore (l.after .dropStore) = [] := by
  simp [entriesOf, newQueries, after, Move.entry?]

@[simp] theorem entriesOf_close (l : Listing) : entriesOf l .close (l.after .close) = [] := by
  simp [entriesOf, newQueries, after, Move.entry?, Engine.stop]

@[simp] theorem entriesOf_deactivate (l : Listing) :
    entriesOf l .deactivate (l.after .deactivate) = [] := by
  simp [entriesOf, newQueries, after, Move.entry?, Engine.stop]

/-- A move was made iff it was enabled; what it leads to and reports is settled by the move. -/
theorem step_eq_some_iff {l l' : Listing} {m : Move} {es : List Event} :
    l.step m = some (l', es) ↔ l.enabled m = true ∧ l' = l.after m ∧ es = l.report m := by
  unfold step
  split
  · next he => simp [he, eq_comm]
  · next he => simp [he]

/-- A move that is enabled is made. -/
theorem attempt_of_enabled {l : Listing} {m : Move} (h : l.enabled m = true) :
    l.attempt m = (l.after m, l.report m) := by
  rw [attempt, step_eq_some_iff.mpr ⟨h, rfl, rfl⟩]
  rfl

/-- A move that is not enabled changes nothing. -/
theorem attempt_of_not_enabled {l : Listing} {m : Move} (h : l.enabled m = false) :
    l.attempt m = (l, []) := by
  rw [attempt, step, h]
  rfl

/-- An outcome can be taken iff the engine works and the query is in flight. -/
theorem enabled_respond_iff {l : Listing} {t : Nat} {o : Outcome} :
    l.enabled (.respond t o) = true ↔
      l.engine.running = true ∧ ∃ c, (t, c) ∈ l.engine.inFlight := by
  simp [enabled, List.any_eq_true]

/-! ## Several moves -/

@[simp] theorem attemptAll_nil (l : Listing) : (l.attemptAll []).1 = l := rfl

@[simp] theorem attemptAll_cons (l : Listing) (m : Move) (ms : List Move) :
    (l.attemptAll (m :: ms)).1 = ((l.attempt m).1.attemptAll ms).1 := rfl

/-- Moves are tried one after the other, however they are grouped. -/
theorem attemptAll_append (l : Listing) (ms ns : List Move) :
    (l.attemptAll (ms ++ ns)).1 = ((l.attemptAll ms).1.attemptAll ns).1 := by
  induction ms generalizing l with
  | nil => rfl
  | cons m ms ih => exact ih (l.attempt m).1

/-! ## Traces -/

/-- A **trace**: started for the store `s`, the listing came to `l` while `j` happened and `es` was
reported. -/
inductive Trace (s : Store) : Journal → List Event → Listing → Prop
  /-- The engine starts with one query. -/
  | start :
      Trace s ((start s).engine.inFlight.map fun q => .asked q.1 q.2) [Engine.spawned s] (start s)
  /-- Any move that can be made may be made. -/
  | step {j : Journal} {es fs : List Event} {l l' : Listing} {m : Move} (h : Trace s j es l)
      (hm : l.step m = some (l', fs)) : Trace s (entriesOf l m l' ++ j) (es ++ fs) l'

namespace Trace

variable {s : Store} {j : Journal} {es : List Event} {l : Listing}

/-- A trace goes on with any enabled move. -/
theorem move (h : Trace s j es l) (m : Move) (hm : l.enabled m = true) :
    Trace s (entriesOf l m (l.after m) ++ j) (es ++ l.report m) (l.after m) :=
  h.step (step_eq_some_iff.mpr ⟨hm, rfl, rfl⟩)

/-- A trace goes on with a mutation while there is a store. -/
theorem mutate (h : Trace s j es l) (m : Mutation) (hm : l.enabled (.mutate m) = true) :
    Trace s (.published (l.store.mutate m).current :: j) (es ++ l.report (.mutate m))
      (l.after (.mutate m)) := by
  simpa using h.move (.mutate m) hm

/-- A trace goes on with a wake-up while the engine is behind the store. -/
theorem wake (h : Trace s j es l) (hm : l.enabled .wake = true) :
    Trace s (.asked (l.engine.machine.latest + 1) l.store.current :: j) (es ++ l.report .wake)
      (l.after .wake) := by
  simpa using h.move .wake hm

/-- A trace goes on with any outcome of a query in flight. -/
theorem respond (h : Trace s j es l) (t : Nat) (o : Outcome)
    (hm : l.enabled (.respond t o) = true) :
    Trace s (.answered t o :: j) (es ++ l.report (.respond t o)) (l.after (.respond t o)) := by
  simpa using h.move (.respond t o) hm

/-- A trace goes on with the end of the store. -/
theorem dropStore (h : Trace s j es l) (hm : l.enabled .dropStore = true) :
    Trace s j (es ++ l.report .dropStore) (l.after .dropStore) := by
  simpa using h.move .dropStore hm

/-- A trace goes on with the end of the engine once nothing more can be published. -/
theorem close (h : Trace s j es l) (hm : l.enabled .close = true) :
    Trace s j (es ++ l.report .close) (l.after .close) := by
  simpa using h.move .close hm

/-- A trace goes on with the listing being left. -/
theorem deactivate (h : Trace s j es l) (hm : l.enabled .deactivate = true) :
    Trace s j (es ++ l.report .deactivate) (l.after .deactivate) := by
  simpa using h.move .deactivate hm

/-- **Induction along a trace**: one case for each kind of move, with what enabled it and what it
does to listing and journal. -/
@[elab_as_elim]
theorem moves {motive : (j : Journal) → (es : List Event) → (l : Listing) → Trace s j es l → Prop}
    (start : motive [.asked 1 s.current] [Engine.spawned s] (.start s) .start)
    (mutate : ∀ {j es l} (h : Trace s j es l) (m : Mutation) (hm : l.enabled (.mutate m) = true),
      motive j es l h → motive _ _ _ (h.mutate m hm))
    (wake : ∀ {j es l} (h : Trace s j es l) (hm : l.enabled .wake = true),
      motive j es l h → motive _ _ _ (h.wake hm))
    (respond : ∀ {j es l} (h : Trace s j es l) (t : Nat) (o : Outcome)
      (hm : l.enabled (.respond t o) = true), motive j es l h → motive _ _ _ (h.respond t o hm))
    (dropStore : ∀ {j es l} (h : Trace s j es l) (hm : l.enabled .dropStore = true),
      motive j es l h → motive _ _ _ (h.dropStore hm))
    (close : ∀ {j es l} (h : Trace s j es l) (hm : l.enabled .close = true),
      motive j es l h → motive _ _ _ (h.close hm))
    (deactivate : ∀ {j es l} (h : Trace s j es l) (hm : l.enabled .deactivate = true),
      motive j es l h → motive _ _ _ (h.deactivate hm))
    (h : Trace s j es l) : motive j es l h := by
  induction h with
  | start => exact start
  | @step j es fs l l' m h hm ih =>
      obtain ⟨he, rfl, rfl⟩ := step_eq_some_iff.mp hm
      -- What a move adds to the journal is said by the lemmas about `entriesOf`.
      cases m with
      | mutate m => simpa using mutate h m he ih
      | wake => simpa using wake h he ih
      | respond t o => simpa using respond h t o he ih
      | dropStore => simpa using dropStore h he ih
      | close => simpa using close h he ih
      | deactivate => simpa using deactivate h he ih

end Trace

/-! ## Tokens -/

/-- No query has a token above the highest. -/
theorem le_highest {j : Journal} {t : Nat} {c : Criteria} (h : .asked t c ∈ j) : t ≤ highest j := by
  induction j with
  | nil => cases h
  | cons x j ih =>
      rcases List.mem_cons.mp h with rfl | hj
      · exact Nat.le_max_left _ _
      · cases x with
        | published => exact ih hj
        | asked => exact Nat.le_trans (ih hj) (Nat.le_max_right _ _)
        | answered => exact ih hj

/-- **Numbered**: the machine counts the tokens, every outcome belongs to a query that was sent, and
in flight is exactly what was asked and not answered. -/
structure Numbered (j : Journal) (e : Engine) : Prop where
  /-- The newest token of the machine is the highest one issued. -/
  highest_eq : highest j = e.machine.latest
  /-- Every outcome belongs to a query that was sent. -/
  asked_of_answered : ∀ {t o}, .answered t o ∈ j → ∃ c, .asked t c ∈ j
  /-- In flight is what was asked and not answered. -/
  flying_iff : ∀ {t c}, (t, c) ∈ e.inFlight ↔ .asked t c ∈ j ∧ ∀ o, .answered t o ∉ j

namespace Numbered

variable {j : Journal} {e : Engine}

/-- No query was sent with a token above the newest one of the machine. -/
theorem asked_le (h : Numbered j e) {t : Nat} {c : Criteria} (ha : .asked t c ∈ j) :
    t ≤ e.machine.latest :=
  h.highest_eq ▸ le_highest ha

/-- The next token is new: no query has it. -/
theorem not_asked_succ (h : Numbered j e) (c : Criteria) : .asked (e.machine.latest + 1) c ∉ j := by
  intro ha
  have hle := h.asked_le ha
  omega

/-- The next token is new: no outcome has it. -/
theorem not_answered_succ (h : Numbered j e) (o : Outcome) :
    .answered (e.machine.latest + 1) o ∉ j := by
  intro ha
  obtain ⟨c, hc⟩ := h.asked_of_answered ha
  exact h.not_asked_succ c hc

/-- What is in flight has no outcome yet. -/
theorem not_answered (h : Numbered j e) {t : Nat} {c : Criteria} (hf : (t, c) ∈ e.inFlight)
    (o : Outcome) : .answered t o ∉ j :=
  (h.flying_iff.mp hf).2 o

/-- Publishing criteria keeps the tokens in order. -/
theorem publish (h : Numbered j e) (c : Criteria) : Numbered (.published c :: j) e where
  highest_eq := h.highest_eq
  asked_of_answered := by
    intro t o ha
    simpa using h.asked_of_answered (by simpa using ha)
  flying_iff := by
    intro t c'
    simpa using h.flying_iff (t := t) (c := c')

/-- Sending a query keeps the tokens in order. -/
theorem wake (h : Numbered j e) (s : Store) :
    Numbered (.asked (e.machine.latest + 1) s.current :: j) (e.wake s) where
  highest_eq := by
    rw [highest_asked, h.highest_eq]
    exact Nat.max_eq_left (Nat.le_succ _)
  asked_of_answered := by
    intro t o ha
    obtain ⟨c, hc⟩ := h.asked_of_answered (by simpa using ha)
    exact ⟨c, List.mem_cons_of_mem _ hc⟩
  flying_iff := by
    intro t c
    have hold := h.flying_iff (t := t) (c := c)
    rw [inFlight_wake, List.mem_append, List.mem_singleton]
    simp only [Prod.mk.injEq, List.mem_cons, Entry.asked.injEq, reduceCtorEq, false_or]
    -- What is in flight was so before, or is the query with the new token, which nobody answered.
    constructor
    · rintro (hf | ⟨rfl, rfl⟩)
      · exact ⟨.inr (hold.mp hf).1, (hold.mp hf).2⟩
      · exact ⟨.inl ⟨rfl, rfl⟩, h.not_answered_succ⟩
    · rintro ⟨⟨rfl, rfl⟩ | ha, hno⟩
      · exact .inr ⟨rfl, rfl⟩
      · exact .inl (hold.mpr ⟨ha, hno⟩)

/-- Taking an outcome of a query in flight keeps the tokens in order. -/
theorem respond (h : Numbered j e) {t : Nat} {c : Criteria} (hf : (t, c) ∈ e.inFlight)
    (o : Outcome) : Numbered (.answered t o :: j) (e.respond t o) where
  highest_eq := by
    rw [highest_answered, h.highest_eq, machine_respond, latest_complete]
  asked_of_answered := by
    intro t' o' ha
    simp only [List.mem_cons, Entry.answered.injEq, reduceCtorEq, false_or] at ha ⊢
    rcases ha with ⟨rfl, rfl⟩ | ha
    · exact ⟨c, (h.flying_iff.mp hf).1⟩
    · exact h.asked_of_answered ha
  flying_iff := by
    intro t' c'
    have hold := h.flying_iff (t := t') (c := c')
    simp only [inFlight_respond, List.mem_filter, decide_eq_true_eq, List.mem_cons,
      Entry.answered.injEq, reduceCtorEq, false_or, not_or, not_and]
    constructor
    · rintro ⟨hf', hne⟩
      exact ⟨(hold.mp hf').1, fun o' => ⟨fun ht => absurd ht hne, (hold.mp hf').2 o'⟩⟩
    · rintro ⟨ha, hno⟩
      exact ⟨hold.mpr ⟨ha, fun o' => (hno o').2⟩, fun ht => (hno o).1 ht rfl⟩

end Numbered

/-- **Tokens never mix up**: along every trace the journal is numbered. -/
theorem Trace.numbered {s : Store} {j : Journal} {es : List Event} {l : Listing}
    (h : Trace s j es l) : Numbered j l.engine := by
  induction h using Trace.moves with
  | start =>
      refine ⟨rfl, ?_, ?_⟩
      · intro t o ha
        simp at ha
      · intro t c
        simp [Listing.start, Engine.spawn, Engine.ask, Machine.initial]
  | mutate _ _ _ ih => exact ih.publish _
  | wake _ _ ih => exact ih.wake _
  | respond _ t o hm ih =>
      obtain ⟨-, c, hf⟩ := enabled_respond_iff.mp hm
      exact ih.respond hf o
  | dropStore _ _ ih => exact ih
  | close _ _ ih => exact ⟨ih.highest_eq, ih.asked_of_answered, ih.flying_iff⟩
  | deactivate _ _ ih => exact ⟨ih.highest_eq, ih.asked_of_answered, ih.flying_iff⟩

/-- A token stands for one query. -/
theorem Trace.asked_unique {s : Store} {j : Journal} {es : List Event} {l : Listing}
    (h : Trace s j es l) {t : Nat} {c c' : Criteria} :
    .asked t c ∈ j → .asked t c' ∈ j → c = c' := by
  induction h using Trace.moves with
  | start =>
      intro ha ha'
      simp at ha ha'
      rw [ha.2, ha'.2]
  | wake h _ ih =>
      intro ha ha'
      simp only [List.mem_cons, Entry.asked.injEq] at ha ha'
      rcases ha with ⟨rfl, rfl⟩ | ha <;> rcases ha' with ⟨ht, rfl⟩ | ha'
      · rfl
      · exact absurd ha' (h.numbered.not_asked_succ _)
      · exact absurd (ht ▸ ha) (h.numbered.not_asked_succ _)
      · exact ih ha ha'
  | mutate _ _ _ ih => simpa using ih
  | respond _ _ _ _ ih => simpa using ih
  | dropStore _ _ ih => exact ih
  | close _ _ ih => exact ih
  | deactivate _ _ ih => exact ih

/-- A query has one outcome at most. -/
theorem Trace.answered_unique {s : Store} {j : Journal} {es : List Event} {l : Listing}
    (h : Trace s j es l) {t : Nat} {o o' : Outcome} :
    .answered t o ∈ j → .answered t o' ∈ j → o = o' := by
  induction h using Trace.moves with
  | start =>
      intro ha
      simp at ha
  | respond h t' o₀ hm ih =>
      obtain ⟨-, c, hf⟩ := enabled_respond_iff.mp hm
      -- What is in flight was never answered, so the older outcome is that of another query.
      have hold := h.numbered.not_answered hf
      intro ha ha'
      simp only [List.mem_cons, Entry.answered.injEq] at ha ha'
      rcases ha with ⟨rfl, rfl⟩ | ha <;> rcases ha' with ⟨ht, rfl⟩ | ha'
      · rfl
      · exact absurd ha' (hold _)
      · exact absurd (ht ▸ ha) (hold _)
      · exact ih ha ha'
  | mutate _ _ _ ih => simpa using ih
  | wake _ _ ih => simpa using ih
  | dropStore _ _ ih => exact ih
  | close _ _ ih => exact ih
  | deactivate _ _ ih => exact ih

/-! ## The published view -/

/-- An outcome leaves the published view and the machine in step, whether it is published or not. -/
theorem published_respond {e : Engine} (h : e.published = e.machine.view) (t : Nat) (o : Outcome) :
    (e.respond t o).published = (e.respond t o).machine.view := by
  unfold Engine.respond
  split
  · exact h
  · rfl
  · rfl

/-- **The published view never lags behind**: it is what the machine shows. -/
theorem Trace.published_eq_view {s : Store} {j : Journal} {es : List Event} {l : Listing}
    (h : Trace s j es l) : l.engine.published = l.engine.machine.view := by
  induction h using Trace.moves with
  | start => rfl
  | mutate _ _ _ ih => exact ih
  | wake _ _ _ => rfl
  | respond _ t o _ ih => exact published_respond ih t o
  | dropStore _ _ ih => exact ih
  | close _ _ ih => exact ih
  | deactivate _ _ ih => exact ih

end Lookout.Listing
