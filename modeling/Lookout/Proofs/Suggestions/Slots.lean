import Lookout.Proofs.Suggestions.Trace

/-! # One list of the panel
The requests of an activation go out side by side, and each of their outcomes goes into the one panel.
This file shows that **a list of the panel depends on the calls and on the requests of its own kind
alone**: what becomes of the others, and when, makes no difference to it.

* `kindAt`, `Move.concerns`: which requests, and so which moves, are those of a kind.
* `AgreeOn`: two loaders that may differ in everything but one kind; kept by all moves of the kind,
  made in both, and by any other move, made in one.
* `list_eq_of_same_moves`: the same moves of a kind lead to the same list of that kind. -/

namespace Lookout.Suggestions.Loader

/-! ## The requests of a kind -/

/-- The kind of the request with an index: activations make their requests in the order of kinds. -/
def kindAt (i : Nat) : SuggestionKind :=
  SuggestionKind.all.get ⟨i % SuggestionKind.all.length, Nat.mod_lt i (by decide)⟩

/-- Whether a move **concerns** a kind: it is a call, which concerns all of them, or about one of the
kind's own requests. -/
def Move.concerns (k : SuggestionKind) : Move → Bool
  | .activate | .deactivate | .drop => true
  | .send i | .receive i _ => kindAt i = k

/-- The requests are **in order** if whole activations were made, and each request has the kind of
its index. -/
structure InOrder (l : Loader) : Prop where
  /-- Every activation made all of its requests. -/
  length_mod : l.requests.length % SuggestionKind.all.length = 0
  /-- The kind of a request is that of its index. -/
  kind_eq : ∀ {i r}, l.requests[i]? = some r → r.kind = kindAt i

/-- The requests of an activation have the kinds of the indices that they get. -/
theorem kind_requestsOf {n i a : Nat} {r : Request} (hn : n % SuggestionKind.all.length = 0)
    (h : (requestsOf a)[i]? = some r) : r.kind = kindAt (n + i) := by
  have hmod : (n + i) % SuggestionKind.all.length = i % SuggestionKind.all.length := by
    rw [Nat.add_mod, hn, Nat.zero_add, Nat.mod_mod]
  have hkind : kindAt (n + i) = kindAt i := by simp only [kindAt, hmod]
  rw [hkind]
  match i, h with
  | 0, h => cases Option.some.inj h; rfl
  | 1, h => cases Option.some.inj h; rfl
  | 2, h => cases Option.some.inj h; rfl

namespace InOrder

variable {l : Loader}

/-- Without requests everything is in order. -/
theorem ofLimit (limit : Nat) : (ofLimit limit).InOrder :=
  ⟨rfl, fun h => nomatch h⟩

/-- Requests that are about to go out go to the end, in order. -/
theorem activate (h : l.InOrder) : l.activate.InOrder where
  length_mod := by
    show (l.requests ++ requestsOf _).length % _ = 0
    rw [List.length_append, Nat.add_mod, h.length_mod, requestsOf, List.length_map, Nat.mod_self,
      Nat.zero_mod]
  kind_eq := by
    intro i r hr
    have happ : (l.requests ++ requestsOf (l.activation + 1))[i]? = some r := hr
    by_cases hi : i < l.requests.length
    · rw [List.getElem?_append_left hi] at happ
      exact h.kind_eq happ
    · have hle := Nat.le_of_not_lt hi
      rw [List.getElem?_append_right hle] at happ
      rw [kind_requestsOf h.length_mod happ, Nat.add_sub_cancel' hle]

/-- How far a request has come changes neither its place nor its kind. -/
theorem advance (h : l.InOrder) (index : Nat) (p : Progress) : (l.advance index p).InOrder where
  length_mod := by
    rw [length_advance]
    exact h.length_mod
  kind_eq := by
    intro i r hr
    rw [getElem?_advance] at hr
    obtain ⟨q, hq, rfl⟩ := Option.map_eq_some_iff.mp hr
    rw [← h.kind_eq hq]
    split <;> rfl

/-- Loaders with the same requests are in order together. -/
theorem congr (h : l.InOrder) {l' : Loader} (hr : l'.requests = l.requests) : l'.InOrder :=
  ⟨hr ▸ h.length_mod, fun hi => h.kind_eq (hr ▸ hi)⟩

end InOrder

/-! ## Loaders that agree on a kind -/

/-- Two loaders **agree** on a kind if no call and no request of the kind can tell them apart. -/
structure AgreeOn (k : SuggestionKind) (l l' : Loader) : Prop where
  /-- The requests of both are in order. -/
  inOrder : l.InOrder ∧ l'.InOrder
  /-- Both keep as many suggestions. -/
  limit_eq : l.limit = l'.limit
  /-- The same activation is the newest. -/
  activation_eq : l.activation = l'.activation
  /-- Both can be activated, or none. -/
  live_eq : l.live = l'.live
  /-- Both have made as many requests. -/
  length_eq : l.requests.length = l'.requests.length
  /-- The requests of the kind have come as far. -/
  request_eq : ∀ {i}, kindAt i = k → l.requests[i]? = l'.requests[i]?
  /-- The list of the kind is the same. -/
  list_eq : l.panel.lists.ofKind k = l'.panel.lists.ofKind k

namespace AgreeOn

variable {k : SuggestionKind} {l l' : Loader}

/-- A loader agrees with itself. -/
theorem refl (h : l.InOrder) : AgreeOn k l l :=
  ⟨⟨h, h⟩, rfl, rfl, rfl, rfl, fun _ => rfl, rfl⟩

/-- One of the loaders publishes something that does not touch the list of the kind. -/
theorem publish_left (h : AgreeOn k l l') {p : Panel}
    (hp : p.lists.ofKind k = l.panel.lists.ofKind k) : AgreeOn k (l.publish p) l' :=
  ⟨⟨h.inOrder.1.congr rfl, h.inOrder.2⟩, h.limit_eq, h.activation_eq, h.live_eq, h.length_eq,
    h.request_eq, hp.trans h.list_eq⟩

/-- Both loaders publish something with the same list of the kind. -/
theorem publish (h : AgreeOn k l l') {p p' : Panel}
    (hp : p.lists.ofKind k = p'.lists.ofKind k) : AgreeOn k (l.publish p) (l'.publish p') :=
  ⟨⟨h.inOrder.1.congr rfl, h.inOrder.2.congr rfl⟩, h.limit_eq, h.activation_eq, h.live_eq,
    h.length_eq, h.request_eq, hp⟩

/-- Both loaders are activated. -/
theorem activate (h : AgreeOn k l l') : AgreeOn k l.activate l'.activate where
  inOrder := ⟨h.inOrder.1.activate, h.inOrder.2.activate⟩
  limit_eq := h.limit_eq
  activation_eq := congrArg (· + 1) h.activation_eq
  live_eq := h.live_eq
  length_eq := by
    show (l.requests ++ requestsOf _).length = (l'.requests ++ requestsOf _).length
    rw [List.length_append, List.length_append, h.length_eq]
    rfl
  request_eq := by
    intro i hi
    show (l.requests ++ requestsOf (l.activation + 1))[i]? =
      (l'.requests ++ requestsOf (l'.activation + 1))[i]?
    rw [List.getElem?_append, List.getElem?_append, h.length_eq, h.activation_eq, h.request_eq hi]
  list_eq := rfl

/-- Both loaders are deactivated, whatever else each of them awaits. -/
theorem deactivate (h : AgreeOn k l l') : AgreeOn k l.deactivate l'.deactivate where
  inOrder := ⟨h.inOrder.1.congr (requests_deactivate l), h.inOrder.2.congr (requests_deactivate l')⟩
  limit_eq := by rw [limit_deactivate, limit_deactivate, h.limit_eq]
  activation_eq := by rw [activation_deactivate, activation_deactivate, h.activation_eq]
  live_eq := by rw [live_deactivate, live_deactivate, h.live_eq]
  length_eq := by rw [requests_deactivate, requests_deactivate, h.length_eq]
  request_eq := by
    rw [requests_deactivate, requests_deactivate]
    exact h.request_eq
  list_eq := by
    rw [panel_deactivate, panel_deactivate]
    exact h.list_eq

/-- A request of another kind gets on in one of the loaders. -/
theorem advance_left (h : AgreeOn k l l') {i : Nat} (hi : kindAt i ≠ k) (p : Progress) :
    AgreeOn k (l.advance i p) l' where
  inOrder := ⟨h.inOrder.1.advance i p, h.inOrder.2⟩
  limit_eq := h.limit_eq
  activation_eq := h.activation_eq
  live_eq := h.live_eq
  length_eq := (length_advance l i p).trans h.length_eq
  request_eq := by
    intro i' hi'
    have hne : i ≠ i' := fun he => hi (he ▸ hi')
    rw [getElem?_advance, ← h.request_eq hi']
    simp [hne]
  list_eq := h.list_eq

/-- A request of the kind gets on in both loaders. -/
theorem advance (h : AgreeOn k l l') (i : Nat) (p : Progress) :
    AgreeOn k (l.advance i p) (l'.advance i p) where
  inOrder := ⟨h.inOrder.1.advance i p, h.inOrder.2.advance i p⟩
  limit_eq := h.limit_eq
  activation_eq := h.activation_eq
  live_eq := h.live_eq
  length_eq := by rw [length_advance, length_advance, h.length_eq]
  request_eq := by
    intro i' hi'
    rw [getElem?_advance, getElem?_advance, h.request_eq hi']
  list_eq := h.list_eq

/-- The outcome of a request of another kind comes in at one of the loaders. -/
theorem receive_left (h : AgreeOn k l l') {i : Nat} (hi : kindAt i ≠ k) {r : Request}
    (hr : r.kind = kindAt i) (o : Outcome) : AgreeOn k (l.receive i r o) l' := by
  have hadvanced := h.advance_left hi .finished
  have hother : k ≠ r.kind := fun he => hi (he ▸ hr.symm)
  unfold Loader.receive
  split
  · refine hadvanced.publish_left ?_
    rw [Panel.ofKind_receive]
    cases o with
    | ok s => exact if_neg hother
    | error f => rfl
  · exact hadvanced

/-- The outcome of a request of the kind comes in at both loaders. -/
theorem receive (h : AgreeOn k l l') (i : Nat) (r : Request) (o : Outcome) :
    AgreeOn k (l.receive i r o) (l'.receive i r o) := by
  have hadvanced := h.advance i .finished
  unfold Loader.receive
  rw [← h.activation_eq]
  split
  · refine hadvanced.publish ?_
    rw [Panel.ofKind_receive, Panel.ofKind_receive, h.limit_eq, h.list_eq]
  · exact hadvanced

/-- Any move may be tried in one of the loaders if it does not concern the kind. -/
theorem attempt_left (h : AgreeOn k l l') {m : Move} (hm : m.concerns k = false) :
    AgreeOn k (l.attempt m).1 l' := by
  rw [attempt]
  cases hs : l.step m with
  | none => exact h
  | some les =>
      obtain ⟨l₁, es⟩ := les
      cases hs using step_cases with
      | activate => cases hm
      | deactivate => cases hm
      | drop => cases hm
      | send i => exact h.advance_left (of_decide_eq_false hm) .sent
      | receive i o r _ _ hr =>
          exact h.receive_left (of_decide_eq_false hm) (h.inOrder.1.kind_eq hr) o

/-- A move that concerns the kind may be tried in both loaders. -/
theorem attempt (h : AgreeOn k l l') {m : Move} (hm : m.concerns k = true) :
    AgreeOn k (l.attempt m).1 (l'.attempt m).1 := by
  simp only [Loader.attempt]
  cases m with
  | activate =>
      simp only [Loader.step, ← h.live_eq]
      split
      · exact h.activate
      · exact h
  | deactivate =>
      simp only [Loader.step, ← h.live_eq]
      split
      · exact h.deactivate
      · exact h
  | drop =>
      simp only [Loader.step, ← h.live_eq]
      split
      · exact ⟨⟨h.inOrder.1.congr rfl, h.inOrder.2.congr rfl⟩, h.limit_eq,
          congrArg (· + 1) h.activation_eq, rfl, h.length_eq, h.request_eq, h.list_eq⟩
      · exact h
  | send i =>
      -- Both loaders have the same request at the index, and so make the move or refuse it.
      simp only [Loader.step, ← h.request_eq (of_decide_eq_true hm)]
      split
      · exact h.advance i .sent
      · exact h
  | receive i o =>
      simp only [Loader.step, ← h.request_eq (of_decide_eq_true hm)]
      split
      · next r _ =>
          split
          · exact h.receive i r o
          · exact h
      · exact h

/-- A run may leave out all moves that do not concern the kind. -/
theorem attemptAll (h : AgreeOn k l l') (ms : List Move) :
    AgreeOn k (l.attemptAll ms).1 (l'.attemptAll (ms.filter (Move.concerns k))).1 := by
  induction ms generalizing l l' with
  | nil => exact h
  | cons m ms ih =>
      cases hm : m.concerns k with
      | true =>
          rw [List.filter_cons_of_pos hm]
          exact ih (h.attempt hm)
      | false =>
          rw [List.filter_cons_of_neg (Bool.not_eq_true _ ▸ hm)]
          exact ih (h.attempt_left hm)

end AgreeOn

/-- **The same moves of a kind lead to the same list of that kind**, whatever becomes of the requests
of the others. -/
theorem list_eq_of_same_moves {l : Loader} (h : l.InOrder) (k : SuggestionKind) {ms ms' : List Move}
    (hms : ms.filter (Move.concerns k) = ms'.filter (Move.concerns k)) :
    (l.attemptAll ms).1.panel.lists.ofKind k = (l.attemptAll ms').1.panel.lists.ofKind k := by
  have hleft := ((AgreeOn.refl (k := k) h).attemptAll ms).list_eq
  have hright := ((AgreeOn.refl (k := k) h).attemptAll ms').list_eq
  rw [hleft, hms, hright]

end Lookout.Suggestions.Loader
