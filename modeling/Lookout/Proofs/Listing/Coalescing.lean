import Lookout.Proofs.Listing.Trace

/-! # No lost updates
Several publications between two wake-ups of the engine end in one query. This file shows what may
be left out that way and what may not: **queries use publications in order, none of them twice, and
the last one is never left out.** Publications are told apart by their numbers and not by their
criteria, so one that repeats the criteria before it counts like any other.

* `queries`, `publications`, `unseen`: what a journal says about the two sides.
* `Following`: how the engine's memory of the store's version fits the journal; kept by every move.
* `Trace.queries_follow_publications`: the whole statement. -/

namespace Lookout.Listing

/-! ## Queries and publications -/

/-- The **publications** of a journal, the oldest first. -/
def publications : Journal → List Criteria
  | [] => []
  | .published c :: j => publications j ++ [c]
  | .asked _ _ :: j => publications j
  | .answered _ _ :: j => publications j

/-- A **query** that went out. -/
structure Query where
  /-- Its token. -/
  token : Nat
  /-- What it asked for. -/
  criteria : Criteria
  /-- The number of the publication it was sent for; zero stands for the criteria at the start. -/
  publication : Nat

/-- The **queries** of a journal, the oldest first, each with the newest publication at its time. -/
def queries : Journal → List Query
  | [] => []
  | .published _ :: j => queries j
  | .asked t c :: j => queries j ++ [⟨t, c, (publications j).length⟩]
  | .answered _ _ :: j => queries j

/-- The **unseen** publications: those that came after the newest query, the oldest first. -/
def unseen : Journal → List Criteria
  | [] => []
  | .published c :: j => unseen j ++ [c]
  | .asked _ _ :: _ => []
  | .answered _ _ :: j => unseen j

@[simp] theorem publications_published (c : Criteria) (j : Journal) :
    publications (.published c :: j) = publications j ++ [c] := rfl

@[simp] theorem queries_asked (t : Nat) (c : Criteria) (j : Journal) :
    queries (.asked t c :: j) = queries j ++ [⟨t, c, (publications j).length⟩] := rfl

@[simp] theorem unseen_published (c : Criteria) (j : Journal) :
    unseen (.published c :: j) = unseen j ++ [c] := rfl

/-! ## The engine follows the store -/

/-- **Following**: how an engine keeps up with its store, in terms of the journal. -/
structure Following (s : Store) (j : Journal) (l : Listing) : Prop where
  /-- Tokens count the queries. -/
  tokens_eq : (queries j).map Query.token = List.range' 1 l.engine.machine.latest
  /-- No publication is used twice, and later queries use later ones. -/
  increasing : ((queries j).map Query.publication).Pairwise (· < ·)
  /-- No query was sent for an unseen publication. -/
  publication_le : ∀ {q}, q ∈ queries j →
    q.publication + (unseen j).length ≤ (publications j).length
  /-- Every query asks for what its publication says. -/
  criteria_eq : ∀ {q}, q ∈ queries j →
    (s.current :: publications j)[q.publication]? = some q.criteria
  /-- The queries are for the criteria at the start and for some of the publications seen since. -/
  sublist : ∃ seen later, publications j = seen ++ unseen j ∧
    queries j = ⟨1, s.current, 0⟩ :: later ∧ (later.map Query.criteria).Sublist seen
  /-- The newest publication is in force. -/
  current_eq : (s.current :: publications j).getLast? = some l.store.current
  /-- The engine is behind by the unseen publications. -/
  version_eq : l.engine.seen + (unseen j).length = l.store.version
  /-- An engine that is not behind asked for the criteria in force. -/
  caught_up : unseen j = [] → l.engine.machine.criteria = l.store.current
  /-- The newest query is the one the machine knows. -/
  newest : (queries j).getLast?.map Query.criteria = some l.engine.machine.criteria
  /-- Unless the listing was left, the engine gives up only once nothing can be published. -/
  alive : l.held = true → l.engine.running = true ∨ l.storeOpen = false ∧ unseen j = []

namespace Following

variable {s : Store} {j : Journal} {l : Listing}

/-- The engine is behind iff there is an unseen publication. -/
theorem isBehind_iff (h : Following s j l) : l.isBehind = true ↔ unseen j ≠ [] := by
  have hv := h.version_eq
  rw [isBehind, decide_eq_true_iff, ← hv, ← List.length_pos_iff]
  omega

/-- A publication leaves the engine behind by one more. -/
theorem publish (h : Following s j l) (m : Mutation) (hopen : l.storeOpen = true) :
    Following s (.published (l.store.mutate m).current :: j) (l.after (.mutate m)) where
  tokens_eq := h.tokens_eq
  increasing := h.increasing
  publication_le := by
    intro q hq
    have hle := h.publication_le hq
    simp only [unseen_published, publications_published, List.length_append, List.length_singleton]
    omega
  criteria_eq := by
    intro q hq
    -- Older queries have smaller numbers, which the new publication does not move.
    rw [publications_published, ← List.cons_append, List.getElem?_append_left, h.criteria_eq hq]
    have hle := h.publication_le hq
    rw [List.length_cons]
    omega
  sublist := by
    obtain ⟨seen, later, hp, hq, hsub⟩ := h.sublist
    exact ⟨seen, later, by rw [publications_published, hp, List.append_assoc]; rfl, hq, hsub⟩
  current_eq := by
    rw [publications_published, ← List.cons_append, List.getLast?_concat]
    rfl
  version_eq := by
    have hv := h.version_eq
    show l.engine.seen + (unseen j ++ [_]).length = l.store.version + 1
    rw [List.length_append, List.length_singleton]
    omega
  caught_up := by
    intro hnil
    simp at hnil
  newest := h.newest
  alive := by
    intro hheld
    refine .inl ((h.alive hheld).resolve_right ?_)
    rintro ⟨hclosed, -⟩
    rw [hopen] at hclosed
    cases hclosed

/-- A wake-up uses the newest publication, and leaves nothing unseen. -/
theorem wake (h : Following s j l) (hm : l.enabled .wake = true) :
    Following s (.asked (l.engine.machine.latest + 1) l.store.current :: j) (l.after .wake) := by
  have hrun : l.engine.running = true ∧ l.isBehind = true := by simpa [enabled] using hm
  have hne : unseen j ≠ [] := h.isBehind_iff.mp hrun.2
  have hpos : 0 < (unseen j).length := List.length_pos_iff.mpr hne
  refine ⟨?_, ?_, ?_, ?_, ?_, h.current_eq, rfl, fun _ => rfl, ?_, fun _ => .inl hrun.1⟩
  · rw [queries_asked, List.map_append, h.tokens_eq]
    show _ = List.range' 1 (l.engine.machine.latest + 1)
    rw [List.range'_concat]
    simp [Nat.add_comm]
  · rw [queries_asked, List.map_append, List.pairwise_append]
    refine ⟨h.increasing, List.pairwise_singleton _ _, ?_⟩
    intro n hn n' hn'
    obtain ⟨q, hq, rfl⟩ := List.mem_map.mp hn
    -- The unseen publications, of which there are some, lie between the older queries and this one.
    have hle := h.publication_le hq
    simp only [List.map_cons, List.map_nil, List.mem_singleton] at hn'
    omega
  · intro q hq
    rw [queries_asked, List.mem_append, List.mem_singleton] at hq
    rcases hq with hq | rfl
    · exact Nat.le_trans (Nat.le_add_right _ _) (h.publication_le hq)
    · exact Nat.le_refl _
  · intro q hq
    rw [queries_asked, List.mem_append, List.mem_singleton] at hq
    rcases hq with hq | rfl
    · exact h.criteria_eq hq
    · have hlast := h.current_eq
      rw [List.getLast?_eq_getElem?, List.length_cons, Nat.add_sub_cancel] at hlast
      exact hlast
  · obtain ⟨seen, later, hp, hq, hsub⟩ := h.sublist
    -- The last of the unseen publications is the one in force, which this query is for.
    obtain ⟨skipped, c, hu⟩ : ∃ skipped c, unseen j = skipped ++ [c] :=
      ⟨_, _, (List.dropLast_concat_getLast hne).symm⟩
    have hc : c = l.store.current := by
      have hlast := h.current_eq
      rw [hp, hu, ← List.append_assoc, ← List.cons_append, List.getLast?_concat] at hlast
      exact Option.some.inj hlast
    refine ⟨publications j, later ++ [⟨l.engine.machine.latest + 1, c, (publications j).length⟩],
      (List.append_nil _).symm, ?_, ?_⟩
    · rw [queries_asked, hq, hc]
      rfl
    · rw [List.map_append, hp, hu, ← List.append_assoc]
      exact (hsub.trans (List.sublist_append_left _ _)).append (List.Sublist.refl _)
  · rw [queries_asked, List.getLast?_concat]
    rfl

/-- An outcome has nothing to do with the store. -/
theorem respond (h : Following s j l) (t : Nat) (o : Outcome) :
    Following s (.answered t o :: j) (l.after (.respond t o)) := by
  have hm : (l.after (.respond t o)).engine.machine = l.engine.machine.complete t o :=
    machine_respond _ t o
  refine { h with tokens_eq := ?_, version_eq := ?_, caught_up := ?_, newest := ?_, alive := ?_ }
  · rw [hm, latest_complete]
    exact h.tokens_eq
  · show (l.engine.respond t o).seen + _ = _
    rw [seen_respond]
    exact h.version_eq
  · rw [hm, criteria_complete]
    exact h.caught_up
  · rw [hm, criteria_complete]
    exact h.newest
  · show l.held = true → (l.engine.respond t o).running = true ∨ _
    rw [running_respond]
    exact h.alive

/-- An engine gives up by itself only when nothing is unseen and the store is gone. -/
theorem over_of_close (h : Following s j l) (hm : l.enabled .close = true) :
    l.storeOpen = false ∧ unseen j = [] := by
  obtain ⟨⟨-, hbehind⟩, hclosed⟩ : (l.engine.running = true ∧ l.isBehind = false) ∧
      l.storeOpen = false := by simpa [enabled] using hm
  refine ⟨hclosed, Decidable.byContradiction fun hne => ?_⟩
  rw [h.isBehind_iff.mpr hne] at hbehind
  cases hbehind

end Following

/-- **The engine follows the store** along every trace. -/
theorem Trace.following {s : Store} {j : Journal} {es : List Event} {l : Listing}
    (h : Trace s j es l) : Following s j l := by
  induction h using Trace.moves with
  | start =>
      refine ⟨rfl, List.pairwise_singleton _ _, ?_, ?_, ⟨[], [], rfl, rfl, .slnil⟩, rfl, rfl,
        fun _ => rfl, rfl, fun _ => .inl rfl⟩
      · intro q hq
        obtain rfl := List.mem_singleton.mp hq
        exact Nat.le_refl _
      · intro q hq
        obtain rfl := List.mem_singleton.mp hq
        rfl
  | mutate _ m hm ih => exact ih.publish m hm
  | wake _ hm ih => exact ih.wake hm
  | respond _ t o hm ih => exact ih.respond t o
  | dropStore _ _ ih =>
      exact { ih with alive := fun hheld => (ih.alive hheld).imp_right fun hover => ⟨rfl, hover.2⟩ }
  | close _ hm ih => exact { ih with alive := fun _ => .inr (ih.over_of_close hm) }
  | deactivate _ _ ih => exact { ih with alive := fun hheld => nomatch hheld }

/-- An engine that works is woken by every publication, whatever it says, and then sends a query. -/
theorem Trace.publish_wake {s : Store} {j : Journal} {es : List Event} {l : Listing}
    (h : Trace s j es l) (hopen : l.storeOpen = true) (hrun : l.engine.running = true)
    (m : Mutation) :
    ∃ es', Trace s
      (.asked (l.engine.machine.latest + 1) (l.store.mutate m).current ::
        .published (l.store.mutate m).current :: j) es' ((l.after (.mutate m)).after .wake) := by
  have hpub := h.mutate m hopen
  have hbehind : (l.after (.mutate m)).isBehind = true := by
    rw [hpub.following.isBehind_iff, unseen_published]
    exact List.append_ne_nil_of_right_ne_nil _ (List.cons_ne_nil _ _)
  have hwake : (l.after (.mutate m)).enabled .wake = true :=
    Bool.and_eq_true_iff.mpr ⟨hrun, hbehind⟩
  exact ⟨_, hpub.wake hwake⟩

/-- **No lost update**: in the order of their tokens, the queries ask for the criteria at the start
and then for publications in their order, none of them twice; an unseen publication always gets the
engine to wake up, and without one the newest query and the view are about the criteria in force.
Two publications with a wake-up after each get a query each, even if they say the same. -/
theorem Trace.queries_follow_publications {s : Store} {j : Journal} {es : List Event} {l : Listing}
    (h : Trace s j es l) :
    (queries j).map Query.token = List.range' 1 (queries j).length ∧
      ((queries j).map Query.publication).Pairwise (· < ·) ∧
      (∀ q ∈ queries j, (s.current :: publications j)[q.publication]? = some q.criteria) ∧
      (∃ later, queries j = ⟨1, s.current, 0⟩ :: later ∧
        (later.map Query.criteria).Sublist (publications j)) ∧
      (l.held = true → (l.enabled .wake = true ↔ unseen j ≠ [])) ∧
      (unseen j = [] → (queries j).getLast?.map Query.criteria = some l.store.current ∧
        l.engine.published.criteria = l.store.current) ∧
      ∀ m₁ m₂, l.storeOpen = true → l.engine.running = true → ∃ es' l', Trace s
        (.asked ((queries j).length + 2) ((l.store.mutate m₁).mutate m₂).current ::
          .published ((l.store.mutate m₁).mutate m₂).current ::
          .asked ((queries j).length + 1) (l.store.mutate m₁).current ::
          .published (l.store.mutate m₁).current :: j) es' l' := by
  have hf := h.following
  have hlen : (queries j).length = l.engine.machine.latest := by
    rw [← List.length_map (f := Query.token), hf.tokens_eq, List.length_range']
  rw [hlen]
  refine ⟨hf.tokens_eq, hf.increasing, fun q hq => hf.criteria_eq hq, ?_, ?_, ?_, ?_⟩
  · obtain ⟨seen, later, hp, hq, hsub⟩ := hf.sublist
    exact ⟨later, hq, hp ▸ hsub.trans (List.sublist_append_left _ _)⟩
  · intro hheld
    rw [← hf.isBehind_iff]
    constructor
    · intro hm
      exact (Bool.and_eq_true_iff.mp hm).2
    · intro hbehind
      refine Bool.and_eq_true_iff.mpr ⟨(hf.alive hheld).resolve_right ?_, hbehind⟩
      rintro ⟨-, hnil⟩
      exact hf.isBehind_iff.mp hbehind hnil
  · intro hnil
    rw [hf.newest, h.published_eq_view]
    exact ⟨congrArg some (hf.caught_up hnil), hf.caught_up hnil⟩
  · intro m₁ m₂ hopen hrun
    obtain ⟨es₁, h₁⟩ := h.publish_wake hopen hrun m₁
    obtain ⟨es₂, h₂⟩ := h₁.publish_wake hopen hrun m₂
    exact ⟨es₂, _, h₂⟩

/-- Of three publications the engine sees the first one and then the last one, and misses neither of
the two for the reason that the last one repeats the criteria of the first. -/
theorem queries_of_three_publications :
    ∃ j es l, Trace (.ofDefaults .standard) j es l ∧ (publications j).length = 3 ∧
      (queries j).map Query.token = List.range' 1 3 ∧
      (queries j).map Query.publication = [0, 1, 3] ∧ unseen j = [] ∧
      l.engine.published.criteria = l.store.current := by
  have first := (Trace.start (s := .ofDefaults .standard)).mutate (.search "u") rfl |>.wake rfl
  have h := ((first.mutate (.search "us") rfl).mutate (.search "u") rfl).wake rfl
  obtain ⟨htokens, -, -, -, -, hcaught, -⟩ := h.queries_follow_publications
  exact ⟨_, _, _, h, rfl, htokens, rfl, rfl, (hcaught rfl).2⟩

end Lookout.Listing
