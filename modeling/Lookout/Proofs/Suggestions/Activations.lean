import Lookout.Proofs.Suggestions.Trace

/-! # What the panel owes to which activation
Requests are never taken back, so those of any number of activations can be answered at any later
time, all of them into the same panel. This file shows that **the panel is about the latest call
alone**: after an activation it holds what that activation's own requests brought, and after a
deactivation it holds what was there before.

* `inForce?`, `outcome?`, `indexOf`: what a history says about the latest call, about a request, and
  which request is whose.
* `Tracked`: how a loader fits a history; kept by every move.
* `LeadsTo.panel_since_latest_call`: the whole statement. -/

namespace Lookout.Suggestions.Loader

/-! ## What a history says -/

/-- How many **activations** there were. -/
def activations : History → Nat
  | [] => 0
  | .activated :: j => activations j + 1
  | .deactivated :: j => activations j
  | .completed _ _ :: j => activations j

/-- The activation **in force**, counted from zero: the latest call, if that was an activation. -/
def inForce? : History → Option Nat
  | [] => none
  | .activated :: j => some (activations j)
  | .deactivated :: _ => none
  | .completed _ _ :: j => inForce? j

/-- The **outcome** of the request with an index, if that is known. -/
def outcome? : History → Nat → Option Outcome
  | [], _ => none
  | .completed i o :: j, n => if i = n then some o else outcome? j n
  | .activated :: j, n => outcome? j n
  | .deactivated :: j, n => outcome? j n

/-- The index of the request for a kind in an activation: every activation makes one request for
each kind, in the order of kinds. -/
def indexOf (n : Nat) (k : SuggestionKind) : Nat :=
  SuggestionKind.all.length * n + SuggestionKind.all.idxOf k

/-- The kinds an activation still awaits. -/
def awaited (j : History) (n : Nat) : List SuggestionKind :=
  SuggestionKind.all.filter fun k => (outcome? j (indexOf n k)).isNone

/-- The list of a kind that an activation got, no longer than a limit; empty if it got none. -/
def obtained (limit : Nat) (j : History) (n : Nat) (k : SuggestionKind) : List String :=
  match outcome? j (indexOf n k) with
  | some (.ok s) => (s.take limit).map Suggestion.name
  | _ => []

@[simp] theorem outcome?_completed (i n : Nat) (o : Outcome) (j : History) :
    outcome? (.completed i o :: j) n = if i = n then some o else outcome? j n := rfl

/-- No two requests share an index. -/
theorem indexOf_inj {n m : Nat} {k q : SuggestionKind} :
    indexOf n k = indexOf m q ↔ n = m ∧ k = q := by
  have hidx : ∀ k, SuggestionKind.all.idxOf k < 3 ∧
      (SuggestionKind.all.idxOf k = SuggestionKind.all.idxOf q → k = q) := by
    cases q <;> intro k <;> cases k <;> decide
  have hlen : SuggestionKind.all.length = 3 := rfl
  constructor
  · intro h
    rw [indexOf, indexOf, hlen] at h
    have hk := hidx k
    have hq := (hidx q).1
    exact ⟨by omega, hk.2 (by omega)⟩
  · rintro ⟨rfl, rfl⟩
    rfl

/-- The requests of an activation come after those of all activations before it. -/
theorem le_indexOf (n : Nat) (k : SuggestionKind) : 3 * n ≤ indexOf n k :=
  Nat.le_add_right _ _

/-- The requests of an activation come before those of all activations after it. -/
theorem indexOf_lt (n : Nat) (k : SuggestionKind) : indexOf n k < 3 * (n + 1) := by
  have hidx : SuggestionKind.all.idxOf k < 3 := by cases k <;> decide
  have hlen : SuggestionKind.all.length = 3 := rfl
  rw [indexOf, hlen]
  omega

/-- Without a call in it, a history goes on with the activation in force before it. -/
theorem inForce?_append {recent : History} (h : ∀ e ∈ recent, e.isCall = false) (j : History) :
    inForce? (recent ++ j) = inForce? j := by
  induction recent with
  | nil => rfl
  | cons e recent ih =>
      obtain ⟨he, hrest⟩ := List.forall_mem_cons.mp h
      cases e with
      | activated => cases he
      | deactivated => cases he
      | completed i o => exact ih hrest

/-- The outcome of one request does not change what an activation awaits from others. -/
theorem awaited_completed (j : History) (n i : Nat) (o : Outcome) :
    awaited (.completed i o :: j) n = (awaited j n).filter fun k => indexOf n k ≠ i := by
  rw [awaited, awaited, List.filter_filter]
  congr 1
  funext k
  rw [outcome?_completed]
  by_cases h : i = indexOf n k
  · simp [h]
  · simp [h, Ne.symm h]

/-- The outcome of a request is got by its own activation for its own kind, and by no other. -/
theorem obtained_completed_of_ne {n i : Nat} {k : SuggestionKind} (h : indexOf n k ≠ i)
    (limit : Nat) (j : History) (o : Outcome) :
    obtained limit (.completed i o :: j) n k = obtained limit j n k := by
  rw [obtained, obtained, outcome?_completed, if_neg (Ne.symm h)]

/-! ## The loader and the history -/

/-- A request is **placed**: it belongs to an activation, and the numbers it carries say so. -/
structure Placed (j : History) (current i : Nat) (r : Request) (n : Nat) : Prop where
  /-- The activation has happened. -/
  lt : n < activations j
  /-- The request has the index that its kind has in the activation. -/
  index_eq : i = indexOf n r.kind
  /-- The request carries no number that is still to come. -/
  activation_le : r.activation ≤ current
  /-- The request carries the current number iff its activation is in force. -/
  current_iff : r.activation = current ↔ inForce? j = some n
  /-- The request was finished iff its outcome is known. -/
  open_iff : r.progress ≠ .finished ↔ outcome? j i = none

/-- **Tracked**: a loader in terms of its history. -/
structure Tracked (limit : Nat) (j : History) (l : Loader) : Prop where
  /-- How many suggestions are kept does not change. -/
  limit_eq : l.limit = limit
  /-- Every activation made three requests. -/
  length_eq : l.requests.length = 3 * activations j
  /-- Every request has its place. -/
  placed : ∀ {i r}, l.requests[i]? = some r → ∃ n, Placed j l.activation i r n
  /-- Only what was requested has an outcome. -/
  lt_of_outcome : ∀ {i}, outcome? j i ≠ none → i < l.requests.length
  /-- While an activation is in force, the panel awaits what the activation awaits. -/
  pending_eq : ∀ {n}, inForce? j = some n → l.panel.pending = awaited j n
  /-- While an activation is in force, the panel holds what the activation got. -/
  ofKind_eq : ∀ {n}, inForce? j = some n → ∀ k, l.panel.lists.ofKind k = obtained limit j n k
  /-- While none is in force, the panel awaits nothing. -/
  pending_nil : inForce? j = none → l.panel.pending = []
  /-- No list is too long. -/
  length_le : ∀ k, (l.panel.lists.ofKind k).length ≤ limit

namespace Tracked

variable {limit : Nat} {j : History} {l : Loader}

/-- A loader that was never activated. -/
theorem ofLimit (limit : Nat) : Tracked limit [] (ofLimit limit) where
  limit_eq := rfl
  length_eq := rfl
  placed := fun h => nomatch h
  lt_of_outcome := fun h => absurd rfl h
  pending_eq := fun h => nomatch h
  ofKind_eq := fun h => nomatch h
  pending_nil := fun _ => rfl
  length_le := fun k => by cases k <;> exact Nat.zero_le _

/-- The three requests of an activation go to the end, in their places. -/
theorem placed_requestsOf {a n i : Nat} {r : Request} (h : (requestsOf a)[i]? = some r) :
    3 * n + i = indexOf n r.kind ∧ r.activation = a ∧ r.progress = .waiting := by
  rw [requestsOf, List.getElem?_map] at h
  obtain ⟨k, hk, rfl⟩ := Option.map_eq_some_iff.mp h
  refine ⟨?_, rfl, rfl⟩
  rw [indexOf]
  match i, hk with
  | 0, hk => cases Option.some.inj hk; rfl
  | 1, hk => cases Option.some.inj hk; rfl
  | 2, hk => cases Option.some.inj hk; rfl

/-- The requests of an activation that is still to come have no outcomes. -/
theorem outcome?_next (h : Tracked limit j l) (k : SuggestionKind) :
    outcome? j (indexOf (activations j) k) = none := by
  refine Decidable.byContradiction fun ho => ?_
  have hlt := h.lt_of_outcome ho
  have hle := le_indexOf (activations j) k
  rw [h.length_eq] at hlt
  omega

/-- An activation puts its own requests in force and those of all others out of it. -/
theorem activate (h : Tracked limit j l) : Tracked limit (.activated :: j) l.activate where
  limit_eq := h.limit_eq
  length_eq := by
    show (l.requests ++ requestsOf _).length = 3 * (activations j + 1)
    rw [List.length_append, h.length_eq]
    rfl
  placed := by
    intro i r hr
    have happ : (l.requests ++ requestsOf (l.activation + 1))[i]? = some r := hr
    by_cases hi : i < l.requests.length
    · rw [List.getElem?_append_left hi] at happ
      obtain ⟨n, hn⟩ := h.placed happ
      have hlt := hn.lt
      have hle := hn.activation_le
      refine ⟨n, Nat.lt_succ_of_lt hlt, hn.index_eq, Nat.le_succ_of_le hle, ?_, hn.open_iff⟩
      -- An older request carries an older number and belongs to an older activation.
      constructor
      · intro heq
        have hnew : r.activation = l.activation + 1 := heq
        omega
      · intro heq
        have hnew : activations j = n := Option.some.inj heq
        omega
    · rw [List.getElem?_append_right (Nat.le_of_not_lt hi)] at happ
      obtain ⟨hindex, hact, hwait⟩ := placed_requestsOf (n := activations j) happ
      have hlen := h.length_eq
      refine ⟨activations j, Nat.lt_succ_self _, ?_, Nat.le_of_eq hact, ?_, ?_⟩
      · omega
      · exact ⟨fun _ => rfl, fun _ => hact⟩
      · rw [hwait]
        exact ⟨fun _ => Decidable.byContradiction fun ho => hi (h.lt_of_outcome ho), fun _ => nofun⟩
  lt_of_outcome := by
    intro i ho
    show i < (l.requests ++ requestsOf _).length
    rw [List.length_append]
    exact Nat.lt_add_right _ (h.lt_of_outcome ho)
  pending_eq := by
    intro n hn
    obtain rfl : activations j = n := Option.some.inj hn
    show SuggestionKind.all = SuggestionKind.all.filter fun k => (outcome? j _).isNone
    refine (List.filter_eq_self.mpr fun k _ => ?_).symm
    rw [h.outcome?_next k]
    rfl
  ofKind_eq := by
    intro n hn k
    obtain rfl : activations j = n := Option.some.inj hn
    have hnone : outcome? (.activated :: j) (indexOf (activations j) k) = none := h.outcome?_next k
    rw [obtained, hnone]
    exact Lists.ofKind_empty k
  pending_nil := fun hn => nomatch hn
  length_le := fun k => by cases k <;> exact Nat.zero_le _

/-- A deactivation puts all requests out of force, and keeps the lists. -/
theorem deactivate (h : Tracked limit j l) : Tracked limit (.deactivated :: j) l.deactivate where
  limit_eq := (limit_deactivate l).trans h.limit_eq
  length_eq := by
    rw [requests_deactivate]
    exact h.length_eq
  placed := by
    intro i r hr
    rw [requests_deactivate] at hr
    obtain ⟨n, hn⟩ := h.placed hr
    have hle := hn.activation_le
    rw [activation_deactivate]
    refine ⟨n, hn.lt, hn.index_eq, Nat.le_succ_of_le hle, ?_, hn.open_iff⟩
    constructor
    · intro heq
      omega
    · intro heq
      cases heq
  lt_of_outcome := by
    rw [requests_deactivate]
    exact h.lt_of_outcome
  pending_eq := fun hn => nomatch hn
  ofKind_eq := fun hn => nomatch hn
  pending_nil := fun _ => by rw [panel_deactivate]; rfl
  length_le := by
    rw [panel_deactivate]
    exact h.length_le

/-- A request that goes out stays open. -/
theorem send (h : Tracked limit j l) {i a : Nat} {k : SuggestionKind}
    (hr : l.requests[i]? = some ⟨k, a, .waiting⟩) : Tracked limit j (l.advance i .sent) where
  limit_eq := h.limit_eq
  length_eq := by
    rw [length_advance]
    exact h.length_eq
  placed := by
    intro i' r' hr'
    rw [getElem?_advance] at hr'
    obtain ⟨r, hget, rfl⟩ := Option.map_eq_some_iff.mp hr'
    obtain ⟨n, hn⟩ := h.placed hget
    refine ⟨n, ?_⟩
    split
    · next he =>
        subst he
        obtain rfl : _ = r := Option.some.inj (hr.symm.trans hget)
        have hopen := hn.open_iff.mp nofun
        exact { hn with open_iff := ⟨fun _ => hopen, fun _ => nofun⟩ }
    · exact hn
  lt_of_outcome := by
    rw [length_advance]
    exact h.lt_of_outcome
  pending_eq := h.pending_eq
  ofKind_eq := h.ofKind_eq
  pending_nil := h.pending_nil
  length_le := h.length_le

/-- Whatever comes of an outcome, all requests keep their places, and one of them is finished. -/
theorem placed_receive (h : Tracked limit j l) {i i' : Nat} {r' : Request} {o : Outcome}
    (hr' : (l.advance i .finished).requests[i']? = some r') :
    ∃ n, Placed (.completed i o :: j) l.activation i' r' n := by
  rw [getElem?_advance] at hr'
  obtain ⟨r, hget, rfl⟩ := Option.map_eq_some_iff.mp hr'
  obtain ⟨n, hn⟩ := h.placed hget
  refine ⟨n, ?_⟩
  split
  · next he =>
      refine ⟨hn.lt, hn.index_eq, hn.activation_le, hn.current_iff, ?_⟩
      rw [outcome?_completed, if_pos he]
      exact ⟨fun hne => absurd rfl hne, nofun⟩
  · next he =>
      refine ⟨hn.lt, hn.index_eq, hn.activation_le, hn.current_iff, ?_⟩
      rw [outcome?_completed, if_neg he]
      exact hn.open_iff

/-- A request with the current number belongs to the activation in force. -/
theorem index_of_current (h : Tracked limit j l) {i : Nat} {r : Request}
    (hr : l.requests[i]? = some r) (hcur : r.activation = l.activation) :
    ∃ n, inForce? j = some n ∧ i = indexOf n r.kind := by
  obtain ⟨n, hn⟩ := h.placed hr
  exact ⟨n, hn.current_iff.mp hcur, hn.index_eq⟩

/-- A request with another number does not belong to the activation in force. -/
theorem index_of_superseded (h : Tracked limit j l) {i n : Nat} {r : Request}
    (hr : l.requests[i]? = some r) (hcur : r.activation ≠ l.activation)
    (hn : inForce? j = some n) (k : SuggestionKind) : indexOf n k ≠ i := by
  intro hindex
  obtain ⟨m, hm⟩ := h.placed hr
  rw [hm.index_eq, indexOf_inj] at hindex
  exact hcur (hm.current_iff.mpr (hindex.1 ▸ hn))

/-- The outcome that came in is that of a request. -/
theorem lt_of_outcome_completed (h : Tracked limit j l) {i i' : Nat} {r : Request} {o : Outcome}
    (hr : l.requests[i]? = some r) (ho : outcome? (.completed i o :: j) i' ≠ none) :
    i' < (l.advance i .finished).requests.length := by
  rw [length_advance]
  rw [outcome?_completed] at ho
  split at ho
  · next he => exact he ▸ (List.getElem?_eq_some_iff.mp hr).1
  · exact h.lt_of_outcome ho

/-- The outcome of a request of the activation in force goes into the panel, for its own kind. -/
theorem receive_current (h : Tracked limit j l) {i : Nat} {r : Request} (o : Outcome)
    (hr : l.requests[i]? = some r) (hsent : r.progress = .sent)
    (hcur : r.activation = l.activation) :
    Tracked limit (.completed i o :: j) (l.receive i r o) := by
  obtain ⟨n, hn⟩ := h.placed hr
  have hforce : inForce? j = some n := hn.current_iff.mp hcur
  -- The request was sent and not finished, so that its list was empty up to now.
  have hopen : outcome? j (indexOf n r.kind) = none := by
    rw [← hn.index_eq, ← hn.open_iff, hsent]
    nofun
  have hkeep : ∀ {m}, inForce? (.completed i o :: j) = some m → m = n := by
    intro m hm
    exact Option.some.inj (hm.symm.trans hforce)
  rw [Loader.receive, if_pos hcur]
  refine ⟨h.limit_eq, ?_, h.placed_receive, ?_, ?_, ?_, ?_, ?_⟩
  · exact (length_advance l i .finished).trans h.length_eq
  · exact h.lt_of_outcome_completed hr
  · intro m hm
    obtain rfl := hkeep hm
    show (l.panel.receive r.kind l.limit o).pending = _
    rw [Panel.pending_receive, h.pending_eq hforce, awaited_completed, hn.index_eq]
    -- Of the requests of this activation, the one that ended is the one for its kind.
    congr 1
    funext q
    simp [indexOf_inj]
  · intro m hm q
    obtain rfl := hkeep hm
    show (l.panel.receive r.kind l.limit o).lists.ofKind q = _
    rw [Panel.ofKind_receive, h.limit_eq]
    by_cases hq : q = r.kind
    · have hnow : outcome? (.completed i o :: j) (indexOf m q) = some o := by
        rw [outcome?_completed, hn.index_eq, hq, if_pos rfl]
      rw [obtained, hnow]
      cases o with
      | ok s => exact if_pos hq
      | error f =>
          have hold := h.ofKind_eq hforce q
          rw [obtained, hq, hopen] at hold
          rw [hq]
          exact hold
    · have hother : indexOf m q ≠ i := by
        rw [hn.index_eq, Ne, indexOf_inj]
        exact fun he => hq he.2
      rw [obtained_completed_of_ne hother, ← h.ofKind_eq hforce q]
      cases o with
      | ok s => exact if_neg hq
      | error f => rfl
  · intro hm
    cases hm.symm.trans hforce
  · intro q
    show ((l.panel.receive r.kind l.limit o).lists.ofKind q).length ≤ limit
    rw [Panel.ofKind_receive, h.limit_eq]
    cases o with
    | ok s =>
        show (if q = r.kind then _ else _ : List String).length ≤ limit
        split
        · rw [Lists.capped, List.length_map]
          exact List.length_take_le _ _
        · exact h.length_le q
    | error f => exact h.length_le q

/-- The outcome of a request of any other activation changes nothing but the request. -/
theorem receive_superseded (h : Tracked limit j l) {i : Nat} {r : Request} (o : Outcome)
    (hr : l.requests[i]? = some r) (hcur : r.activation ≠ l.activation) :
    Tracked limit (.completed i o :: j) (l.receive i r o) := by
  -- No request of the activation in force has the index of this one.
  have hother : ∀ {m}, inForce? j = some m → ∀ q, indexOf m q ≠ i :=
    h.index_of_superseded hr hcur
  rw [Loader.receive, if_neg hcur]
  refine ⟨h.limit_eq, ?_, h.placed_receive, ?_, ?_, ?_, h.pending_nil, h.length_le⟩
  · exact (length_advance l i .finished).trans h.length_eq
  · exact h.lt_of_outcome_completed hr
  · intro m hm
    have hall : ∀ q ∈ awaited j m, decide (indexOf m q ≠ i) = true := fun q _ =>
      decide_eq_true (hother hm q)
    rw [awaited_completed, List.filter_eq_self.mpr hall]
    exact h.pending_eq hm
  · intro m hm q
    rw [obtained_completed_of_ne (hother hm q)]
    exact h.ofKind_eq hm q

end Tracked

/-- A live loader is **tracked** by its history along every run. -/
theorem LeadsTo.tracked {limit : Nat} {j : History} {l : Loader} (h : (ofLimit limit).LeadsTo j l)
    (hlive : l.live = true) : Tracked limit j l := by
  induction h with
  | refl => exact .ofLimit limit
  | @step j k k' m es h hm ih =>
      have hk := ih (live_of_step hm hlive)
      cases hm using step_cases with
      | activate => exact hk.activate
      | deactivate => exact hk.deactivate
      | drop => cases hlive
      | send i q a _ _ hr => exact hk.send hr
      | receive i o r _ _ hr hsent =>
          by_cases hcur : r.activation = k.activation
          · exact hk.receive_current o hr hsent hcur
          · exact hk.receive_superseded o hr hcur

/-! ## The panel since the latest call -/

/-- As long as no activation is in force and none is called for, the panel stays as it is. -/
theorem LeadsTo.panel_of_retired {limit : Nat} {j recent : History} {l k : Loader}
    (hl : (ofLimit limit).LeadsTo j l) (h : l.LeadsTo recent k) (hj : inForce? j = none)
    (hcalls : ∀ e ∈ recent, e.isCall = false) (hlive : k.live = true) : k.panel = l.panel := by
  induction h with
  | refl => rfl
  | @step recent k k' m es h hm ih =>
      obtain ⟨hcall, hrest⟩ := List.forall_mem_append.mp hcalls
      have hk := live_of_step hm hlive
      have hpanel := ih hrest hk
      cases hm using step_cases with
      | activate => cases hcall _ List.mem_cons_self
      | deactivate => cases hcall _ List.mem_cons_self
      | drop => cases hlive
      | send => exact hpanel
      | receive i o r _ _ hr =>
          have hcur : r.activation ≠ k.activation := by
            intro heq
            obtain ⟨n, hn, -⟩ := ((hl.trans h).tracked hk).index_of_current hr heq
            rw [inForce?_append hrest, hj] at hn
            cases hn
          rw [receive, if_neg hcur]
          exact hpanel

/-- **The panel is about the latest call alone**, whatever the calls and the outcomes, as long as the
loader is live. After an activation it awaits the kinds whose requests in that activation have no
outcome, and every list holds the first suggestions that its own request brought, in their order; it
is empty if the request failed or has no outcome. After a deactivation it awaits nothing and keeps
the lists there were. So an outcome for any other activation changes and publishes nothing, a failure
changes only what is awaited of its own kind, and no list is ever longer than the limit. -/
theorem LeadsTo.panel_since_latest_call {limit : Nat} {j : History} {l : Loader}
    (h : (ofLimit limit).LeadsTo j l) (hlive : l.live = true) :
    (∀ n k, n < activations j → ∃ r, l.requests[indexOf n k]? = some r ∧ r.kind = k) ∧
      (∀ recent earlier, j = recent ++ .activated :: earlier →
        (∀ e ∈ recent, e.isCall = false) →
          l.panel.pending = awaited j (activations earlier) ∧
            ∀ k, l.panel.lists.ofKind k = obtained limit j (activations earlier) k) ∧
      (∀ recent earlier, j = recent ++ .deactivated :: earlier →
        (∀ e ∈ recent, e.isCall = false) →
          ∃ before after es, (ofLimit limit).LeadsTo earlier before ∧
            before.step .deactivate = some (after, es) ∧ after.LeadsTo recent l ∧
            l.panel = ⟨before.panel.lists, []⟩) ∧
      ((∀ e ∈ j, e.isCall = false) → l.panel = .blank) ∧
      (∀ i o l' es, l.step (.receive i o) = some (l', es) →
        ((∀ n, inForce? j = some n → ∀ k, indexOf n k ≠ i) →
          l'.panel = l.panel ∧ l'.publications = l.publications) ∧
        ∀ f, o = .error f → l'.panel.lists = l.panel.lists ∧
          ∀ n, inForce? j = some n → ∀ k,
            k ∈ l'.panel.pending ↔ k ∈ l.panel.pending ∧ indexOf n k ≠ i) ∧
      ∀ k, (l.panel.lists.ofKind k).length ≤ limit := by
  have ht := h.tracked hlive
  refine ⟨?_, ?_, ?_, ?_, ?_, ht.length_le⟩
  · intro n k hn
    have hlt : indexOf n k < l.requests.length := by
      have hindex := indexOf_lt n k
      rw [ht.length_eq]
      omega
    have hget := List.getElem?_eq_getElem hlt
    obtain ⟨m, hm⟩ := ht.placed hget
    exact ⟨_, hget, (indexOf_inj.mp hm.index_eq).2.symm⟩
  · rintro recent earlier rfl hcalls
    have hforce : inForce? (recent ++ .activated :: earlier) = some (activations earlier) :=
      inForce?_append hcalls _
    exact ⟨ht.pending_eq hforce, ht.ofKind_eq hforce⟩
  · intro recent earlier hj hcalls
    obtain ⟨before, m, after, es, hbefore, hm, hstep, hafter⟩ := h.of_append hj
    cases hstep using step_cases with
    | deactivate es hstep =>
        refine ⟨before, _, es, hbefore, hstep, hafter, ?_⟩
        rw [panel_of_retired (hbefore.step hstep) hafter rfl hcalls hlive, panel_deactivate]
        rfl
    | activate => cases hm
    | drop => cases hm
    | send => cases hm
    | receive => cases hm
  · intro hcalls
    exact panel_of_retired .refl h rfl hcalls hlive
  · intro i o l' es hstep
    obtain ⟨r, hr, -, rfl⟩ := step_receive_eq_some hstep
    by_cases hcur : r.activation = l.activation
    · obtain ⟨n, hforce, hindex⟩ := ht.index_of_current hr hcur
      rw [receive, if_pos hcur]
      refine ⟨fun hother => absurd hindex.symm (hother n hforce r.kind), ?_⟩
      rintro f rfl
      refine ⟨rfl, ?_⟩
      intro m hm k
      obtain rfl : m = n := Option.some.inj (hm.symm.trans hforce)
      show k ∈ (l.panel.receive r.kind l.limit (.error f)).pending ↔ _
      rw [Panel.pending_receive, List.mem_filter, hindex]
      simp [indexOf_inj]
    · rw [receive, if_neg hcur]
      refine ⟨fun _ => ⟨rfl, rfl⟩, ?_⟩
      rintro f -
      refine ⟨rfl, ?_⟩
      intro n hn k
      exact ⟨fun hk => ⟨hk, ht.index_of_superseded hr hcur hn k⟩, And.left⟩

/-- An answer to the first of two activations comes in during the second one, between a success and
a failure there: one list is capped, the other two are empty, and one kind is still awaited. -/
theorem panel_after_late_outcome :
    ∃ j l, (ofLimit 2).LeadsTo j l ∧ l.live = true ∧ activations j = 2 ∧
      indexOf 0 .labels = 1 ∧ .completed 1 (.ok [⟨"late"⟩]) ∈ j ∧
      l.panel.pending = [.labels] ∧ l.panel.lists.ofKind .tags = ["a", "b"] ∧
      l.panel.lists.ofKind .labels = [] ∧ l.panel.lists.ofKind .features = [] := by
  have first := ((LeadsTo.refl (l := ofLimit 2)).step (m := .activate) rfl).step (m := .send 1) rfl
  have second := ((first.step (m := .activate) rfl).step (m := .send 3) rfl).step
    (m := .send 5) rfl
  have h := ((second.step (m := .receive 3 (.ok [⟨"a"⟩, ⟨"b"⟩, ⟨"c"⟩])) rfl).step
    (m := .receive 1 (.ok [⟨"late"⟩])) rfl).step
    (m := .receive 5 (.error (.unavailable "503"))) rfl
  obtain ⟨-, hactivated, -⟩ := h.panel_since_latest_call rfl
  obtain ⟨hpending, hlists⟩ := hactivated [_, _, _] [.activated] rfl (by simp [Entry.isCall])
  exact ⟨_, _, h, rfl, rfl, rfl, by simp [Move.entry?], hpending, hlists .tags, hlists .labels,
    hlists .features⟩

end Lookout.Suggestions.Loader
