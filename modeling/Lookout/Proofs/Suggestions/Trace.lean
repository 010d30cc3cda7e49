import Lookout.Suggestions.Loader

/-! # Traces of a loader
A loader may be activated and deactivated at any time, and the requests it has sent may be answered
in any order, or never. This file says once what such a run can be.

* **`History`**: what an outsider could write down about a run: the calls made on the loader and the
  requests that were completed, the newest entry first.
* **`LeadsTo`**: a loader can become another one while a history happens. Every interleaving of calls
  and outcomes is a way from one to the other.
* `step_cases`, `LeadsTo.of_append`: a step taken apart into the moves, and a run at one of its
  entries. -/

namespace Lookout.Suggestions

/-! ## Requests -/

variable {l : Loader} {i : Nat} {r : Request}

/-- What noting the progress of one request does to the requests. -/
theorem getElem?_advance (l : Loader) (index : Nat) (p : Progress) (i : Nat) :
    (l.advance index p).requests[i]? =
      l.requests[i]?.map fun r => if index = i then { r with progress := p } else r := by
  rw [Loader.advance, List.getElem?_modify]
  rfl

/-- Noting the progress of a request makes no request. -/
@[simp] theorem length_advance (l : Loader) (index : Nat) (p : Progress) :
    (l.advance index p).requests.length = l.requests.length :=
  List.length_modify _ _ _

/-- A request keeps its place and its kind, however far it comes. -/
theorem request_advance (h : l.requests[i]? = some r) (index : Nat) (p : Progress) :
    ∃ r', (l.advance index p).requests[i]? = some r' ∧ r'.kind = r.kind := by
  rw [getElem?_advance, h]
  refine ⟨_, rfl, ?_⟩
  split <;> rfl

/-- Taking an outcome does to the requests what noting the end of one of them does. -/
theorem requests_receive (l : Loader) (index : Nat) (q : Request) (o : Outcome) :
    (l.receive index q o).requests = (l.advance index .finished).requests := by
  unfold Loader.receive
  split <;> rfl

/-- A request keeps its place and its kind when an outcome comes in. -/
theorem request_receive (h : l.requests[i]? = some r) (index : Nat) (q : Request) (o : Outcome) :
    ∃ r', (l.receive index q o).requests[i]? = some r' ∧ r'.kind = r.kind := by
  rw [requests_receive]
  exact request_advance h index .finished

/-- Retiring an activation leaves the requests alone. -/
@[simp] theorem requests_deactivate (l : Loader) : l.deactivate.requests = l.requests := by
  unfold Loader.deactivate
  split <;> rfl

/-- Retiring an activation does not change how many suggestions are kept. -/
@[simp] theorem limit_deactivate (l : Loader) : l.deactivate.limit = l.limit := by
  unfold Loader.deactivate
  split <;> rfl

/-- Retiring an activation does not end a loader. -/
@[simp] theorem live_deactivate (l : Loader) : l.deactivate.live = l.live := by
  unfold Loader.deactivate
  split <;> rfl

/-- Retiring an activation uses up a number. -/
@[simp] theorem activation_deactivate (l : Loader) :
    l.deactivate.activation = l.activation + 1 := by
  unfold Loader.deactivate
  split <;> rfl

/-- Retiring an activation abandons what the panel awaits, if it awaits anything. -/
@[simp] theorem panel_deactivate (l : Loader) : l.deactivate.panel = l.panel.abandon := by
  unfold Loader.deactivate
  split
  · next hsettled =>
      have hnil : l.panel.pending = [] := List.isEmpty_iff.mp hsettled
      show l.panel = ⟨l.panel.lists, []⟩
      rw [← hnil]
  · rfl

/-- Loaders that go away leave their requests alone. -/
theorem requests_retire (l : Loader) :
    ((l.attempt .deactivate).1.attempt .drop).1.requests = l.requests := by
  have hdrop : ∀ k : Loader, (k.attempt .drop).1.requests = k.requests := by
    intro k
    simp only [Loader.attempt, Loader.step]
    split <;> rfl
  rw [hdrop]
  simp only [Loader.attempt, Loader.step]
  split
  · exact requests_deactivate l
  · rfl

/-! ## Panels -/

/-- The kind whose outcome came in is awaited no longer, whether that was a success or not. -/
@[simp] theorem Panel.pending_receive (p : Panel) (k : SuggestionKind) (limit : Nat) (o : Outcome) :
    (p.receive k limit o).pending = p.pending.filter (· ≠ k) := by
  cases o <;> rfl

/-- A success replaces the list of its kind, and a failure replaces none. -/
theorem Panel.ofKind_receive (p : Panel) (k : SuggestionKind) (limit : Nat) (o : Outcome)
    (q : SuggestionKind) :
    (p.receive k limit o).lists.ofKind q = match o with
      | .ok s => if q = k then Lists.capped limit s else p.lists.ofKind q
      | .error _ => p.lists.ofKind q := by
  cases o with
  | ok s => exact Lists.ofKind_put p.lists k q s limit
  | error f => rfl

/-! ## Moves -/

/-- A request that goes out was waiting, and changes only its own progress. -/
theorem step_send_eq_some {l l' : Loader} {i : Nat} {es : List Event}
    (h : l.step (.send i) = some (l', es)) :
    ∃ k a, l.requests[i]? = some ⟨k, a, .waiting⟩ ∧ l' = l.advance i .sent := by
  simp only [Loader.step] at h
  split at h
  · next k a hr => exact ⟨k, a, hr, (congrArg Prod.fst (Option.some.inj h)).symm⟩
  · cases h

/-- An outcome that comes in is taken for a request that was sent. -/
theorem step_receive_eq_some {l l' : Loader} {i : Nat} {o : Outcome} {es : List Event}
    (h : l.step (.receive i o) = some (l', es)) :
    ∃ r, l.requests[i]? = some r ∧ r.progress = .sent ∧ l' = l.receive i r o := by
  simp only [Loader.step] at h
  split at h
  · next r hr =>
      split at h
      · next hsent => exact ⟨r, hr, hsent, (congrArg Prod.fst (Option.some.inj h)).symm⟩
      · cases h
  · cases h

namespace Loader

/-- **What a step can be**: one case for each kind of move, with what made it possible and what it
does to the loader. -/
@[elab_as_elim]
theorem step_cases {l : Loader}
    {motive : (m : Move) → (l' : Loader) → (es : List Event) → l.step m = some (l', es) → Prop}
    (activate : ∀ es h, l.live = true → motive .activate l.activate es h)
    (deactivate : ∀ es h, l.live = true → motive .deactivate l.deactivate es h)
    (drop : ∀ es h, l.live = true →
      motive .drop { l with activation := l.activation + 1, live := false } es h)
    (send : ∀ i k a es h, l.requests[i]? = some ⟨k, a, .waiting⟩ →
      motive (.send i) (l.advance i .sent) es h)
    (receive : ∀ i o r es h, l.requests[i]? = some r → r.progress = .sent →
      motive (.receive i o) (l.receive i r o) es h)
    {m : Move} {l' : Loader} {es : List Event} (h : l.step m = some (l', es)) :
    motive m l' es h := by
  cases m with
  | activate =>
      obtain ⟨hlive, hs⟩ := Option.ite_none_right_eq_some.mp h
      obtain ⟨rfl, rfl⟩ := Prod.mk.inj (Option.some.inj hs)
      exact activate _ h hlive
  | deactivate =>
      obtain ⟨hlive, hs⟩ := Option.ite_none_right_eq_some.mp h
      obtain ⟨rfl, rfl⟩ := Prod.mk.inj (Option.some.inj hs)
      exact deactivate _ h hlive
  | drop =>
      obtain ⟨hlive, hs⟩ := Option.ite_none_right_eq_some.mp h
      obtain ⟨rfl, rfl⟩ := Prod.mk.inj (Option.some.inj hs)
      exact drop _ h hlive
  | send i =>
      obtain ⟨k, a, hr, rfl⟩ := step_send_eq_some h
      exact send i k a es h hr
  | receive i o =>
      obtain ⟨r, hr, hsent, rfl⟩ := step_receive_eq_some h
      exact receive i o r es h hr hsent

/-- Taking an outcome does not end a loader. -/
@[simp] theorem live_receive (l : Loader) (i : Nat) (r : Request) (o : Outcome) :
    (l.receive i r o).live = l.live := by
  unfold receive
  split <;> rfl

/-- A loader that is live after a step was live before it. -/
theorem live_of_step {l l' : Loader} {m : Move} {es : List Event} (h : l.step m = some (l', es))
    (hlive : l'.live = true) : l.live = true := by
  cases h using step_cases with
  | activate _ _ hl => exact hl
  | deactivate _ _ hl => exact hl
  | drop _ _ hl => exact hl
  | send => exact hlive
  | receive i o r => exact (live_receive l i r o).symm.trans hlive

/-! ## Several moves -/

@[simp] theorem attemptAll_nil (l : Loader) : (l.attemptAll []).1 = l := rfl

@[simp] theorem attemptAll_cons (l : Loader) (m : Move) (ms : List Move) :
    (l.attemptAll (m :: ms)).1 = ((l.attempt m).1.attemptAll ms).1 := rfl

/-- Moves are tried one after the other, however they are grouped. -/
theorem attemptAll_append (l : Loader) (ms ns : List Move) :
    (l.attemptAll (ms ++ ns)).1 = ((l.attemptAll ms).1.attemptAll ns).1 := by
  induction ms generalizing l with
  | nil => rfl
  | cons m ms ih => exact ih (l.attempt m).1

/-- Calls on a loader that is gone do nothing. -/
theorem attempt_of_not_live {l : Loader} (h : l.live = false) {m : Move}
    (hm : m = .activate ∨ m = .deactivate ∨ m = .drop) : l.attempt m = (l, []) := by
  rcases hm with rfl | rfl | rfl <;> simp [attempt, step, h]

/-! ## Histories -/

/-- An **entry** of a history: one thing that happened. Requests are numbered from zero, in the order
in which they were made. -/
inductive Entry
  /-- The loader was activated. -/
  | activated
  /-- The loader was deactivated. -/
  | deactivated
  /-- The outcome of the request with this index came in. -/
  | completed (index : Nat) (outcome : Outcome)

/-- A **history**: the entries of a run, the newest first. -/
abbrev History := List Entry

/-- Whether an entry is a call on the loader, and not the end of a request. -/
def Entry.isCall : Entry → Bool
  | .activated | .deactivated => true
  | .completed _ _ => false

/-- What a move is for a history, if a history takes note of it. -/
def Move.entry? : Move → Option Entry
  | .activate => some .activated
  | .deactivate => some .deactivated
  | .receive i o => some (.completed i o)
  | .send _ | .drop => none

/-! ## Runs -/

/-- A loader **leads to** another one while a history happens, if moves make the one of the other. -/
inductive LeadsTo (l : Loader) : History → Loader → Prop
  /-- Nothing happens. -/
  | refl : LeadsTo l [] l
  /-- A move is made that can be made. -/
  | step {j : History} {k k' : Loader} {m : Move} {es : List Event} (h : LeadsTo l j k)
      (hm : k.step m = some (k', es)) : LeadsTo l (m.entry?.toList ++ j) k'

namespace LeadsTo

variable {l k : Loader} {j : History}

/-- What happens goes on. -/
theorem trans {k' : Loader} {recent : History} (h : l.LeadsTo j k) (h' : k.LeadsTo recent k') :
    l.LeadsTo (recent ++ j) k' := by
  induction h' with
  | refl => exact h
  | step _ hm ih =>
      rw [List.append_assoc]
      exact ih.step hm

/-- A run can be taken apart at any entry: there was a move with that entry, a run before it and a
run after it. -/
theorem of_append {recent earlier : History} {e : Entry} (h : l.LeadsTo j k)
    (hj : j = recent ++ e :: earlier) :
    ∃ before m after es, l.LeadsTo earlier before ∧ m.entry? = some e ∧
      before.step m = some (after, es) ∧ after.LeadsTo recent k := by
  induction h generalizing recent with
  | refl => simp at hj
  | @step j k k' m es h hm ih =>
      -- Either this move has the entry, or the entry lies in the run before it.
      have hsplit : (m.entry? = some e ∧ recent = [] ∧ j = earlier) ∨
          ∃ rest, recent = m.entry?.toList ++ rest ∧ j = rest ++ e :: earlier := by
        cases he : m.entry? with
        | none =>
            rw [he] at hj
            exact .inr ⟨recent, rfl, hj⟩
        | some x =>
            rw [he] at hj
            cases recent with
            | nil =>
                obtain ⟨rfl, rfl⟩ := List.cons.inj hj
                exact .inl ⟨rfl, rfl, rfl⟩
            | cons y rest =>
                obtain ⟨rfl, hrest⟩ := List.cons.inj hj
                exact .inr ⟨rest, rfl, hrest⟩
      rcases hsplit with ⟨he, rfl, rfl⟩ | ⟨rest, rfl, hrest⟩
      · exact ⟨k, m, k', es, h, he, hm, .refl⟩
      · obtain ⟨before, n, after, fs, hbefore, hn, hstep, hafter⟩ := ih hrest
        exact ⟨before, n, after, fs, hbefore, hn, hstep, hafter.step hm⟩

/-- A loader that tries moves goes on, whether they can be made or not. -/
theorem attemptAll (h : l.LeadsTo j k) (ms : List Move) :
    ∃ recent, l.LeadsTo recent (k.attemptAll ms).1 := by
  induction ms generalizing j k with
  | nil => exact ⟨j, h⟩
  | cons m ms ih =>
      rw [attemptAll_cons, Loader.attempt]
      cases hm : k.step m with
      | none => exact ih h
      | some kes => exact ih (h.step hm)

end LeadsTo

end Loader

end Lookout.Suggestions
