import Lookout.Proofs.Screen.Parts
import Lookout.Proofs.Suggestions.Slots

/-! # List and panel stay apart
The list and the filter panel share a screen, a backend and a runtime. This file compares two runs of
a screen and shows that **neither part can tell from what it publishes how the other one fares**: the
same mutations, wake-ups and list outcomes publish the same views, whatever comes of the requests for
suggestions, and the other way round. Inside the panel the same holds of each of its lists.

* `publishedAlong`: what a system publishes along a run.
* `publishedAlong_filter`: a run publishes the same without the moves that change nothing observed.
* `list_and_panel_separate`: the whole statement. -/

namespace Lookout

/-! ## What a run publishes -/

section Published

variable {σ μ α : Type} (step : σ → μ → σ) (count : σ → Nat) (shown : σ → α)

/-- What a system **publishes** along a run, oldest first: what it shows whenever its count of
publications has changed. -/
def publishedAlong (s : σ) : List μ → List α
  | [] => []
  | m :: ms =>
    (if count (step s m) = count s then [] else [shown (step s m)])
      ++ publishedAlong (step s m) ms

/-- **Moves may be left out** of a run if they change nothing that is observed: `R` relates systems
that are observed alike, a move that counts keeps it in both, and any other move in one of them. -/
theorem publishedAlong_filter {R : σ → σ → Prop} {counts : μ → Bool}
    (both : ∀ {s t m}, R s t → counts m = true → R (step s m) (step t m))
    (left : ∀ {s t m}, R s t → counts m = false → R (step s m) t)
    (count_eq : ∀ {s t}, R s t → count s = count t)
    (shown_eq : ∀ {s t}, R s t → shown s = shown t)
    {s t : σ} (h : R s t) (ms : List μ) :
    publishedAlong step count shown s ms =
      publishedAlong step count shown t (ms.filter counts) := by
  induction ms generalizing s t with
  | nil => rfl
  | cons m ms ih =>
      cases hm : counts m with
      | true =>
          have hnext := both h hm
          rw [List.filter_cons_of_pos hm, publishedAlong, publishedAlong, ih hnext, count_eq h,
            count_eq hnext, shown_eq hnext]
      | false =>
          -- The system that makes the move publishes nothing, for its count is still the other's.
          have hnext := left h hm
          have hcount : count (step s m) = count s := (count_eq hnext).trans (count_eq h).symm
          rw [List.filter_cons_of_neg (Bool.not_eq_true _ ▸ hm), publishedAlong, if_pos hcount,
            ih hnext]
          rfl

end Published

open Listing Suggestions

namespace Screen

/-- The views that subscribers get to see along a run, from the one at its beginning. -/
def views (s : Screen) (ms : List Move) : List View :=
  s.listing.engine.published :: publishedAlong (fun s m => (s.attempt m).1)
    (·.listing.engine.publications) (·.listing.engine.published) s ms

/-- The panels that subscribers get to see along a run, from the one at its beginning. -/
def panels (s : Screen) (ms : List Move) : List Panel :=
  s.loader.panel :: publishedAlong (fun s m => (s.attempt m).1)
    (·.loader.publications) (·.loader.panel) s ms

/-! ## Which moves matter to whom -/

/-- Whether a move is one of the **listing**: a mutation, a wake-up, an outcome of a query, or the end
of the screen. -/
def Move.isListing : Move → Bool
  | .mutate _ | .wake | .respond _ _ | .deactivate => true
  | .send _ | .receive _ _ => false

/-- Whether a move is one of the **loader**: a request for suggestions that goes out, its outcome, or
the end of the screen. -/
def Move.isLoading : Move → Bool
  | .send _ | .receive _ _ | .deactivate => true
  | .mutate _ | .wake | .respond _ _ => false

/-- Whether a move matters to the list of one **kind** in the panel: a request of that kind that goes
out, its outcome, or the end of the screen. -/
def Move.concerns (k : SuggestionKind) : Move → Bool
  | .send i | .receive i _ => Loader.kindAt i = k
  | .deactivate => true
  | .mutate _ | .wake | .respond _ _ => false

theorem Move.listing_eq_nil {m : Move} (h : m.isListing = false) : m.listing = [] := by
  cases m <;> first | rfl | cases h

theorem Move.loading_eq_nil {m : Move} (h : m.isLoading = false) : m.loading = [] := by
  cases m <;> first | rfl | cases h

/-- The moves of a run that concern a kind are those of the loader's own run that do. -/
theorem filter_concerns_loading (k : SuggestionKind) (ms : List Move) :
    (ms.flatMap Move.loading).filter (Loader.Move.concerns k) =
      (ms.filter (Move.concerns k)).flatMap Move.loading := by
  induction ms with
  | nil => rfl
  | cons m ms ih =>
      rw [List.flatMap_cons, List.filter_append, ih, List.filter_cons]
      cases m with
      | mutate => rfl
      | wake => rfl
      | respond => rfl
      | send i =>
          by_cases h : Loader.kindAt i = k <;>
            simp [Move.loading, Move.concerns, Loader.Move.concerns, h]
      | receive i o =>
          by_cases h : Loader.kindAt i = k <;>
            simp [Move.loading, Move.concerns, Loader.Move.concerns, h]
      | deactivate => rfl

/-- **One part of a screen** publishes the same without the moves of the other: `own` says what a move
of the screen is for the part, and `run` what the part makes of it. -/
theorem Whole.publishedAlong_part {β ν α : Type} {own : Move → List ν} (part : Screen → β)
    (run : β → List ν → β) (hpart : ∀ {s : Screen}, s.Whole → ∀ m,
      part (s.attempt m).1 = run (part s) (own m)) (hnil : ∀ b, run b [] = b)
    {isOwn : Move → Bool} (hown : ∀ {m}, isOwn m = false → own m = [])
    (count : β → Nat) (shown : β → α) {s : Screen} (h : s.Whole) (ms : List Move) :
    publishedAlong (fun s m => (s.attempt m).1) (fun s => count (part s)) (fun s => shown (part s))
        s ms =
      publishedAlong (fun s m => (s.attempt m).1) (fun s => count (part s))
        (fun s => shown (part s)) s (ms.filter isOwn) := by
  refine publishedAlong_filter (R := fun s t => s.Whole ∧ t.Whole ∧ part s = part t)
    _ _ _ ?_ ?_ ?_ ?_ ⟨h, h, rfl⟩ ms
  · rintro s t m ⟨hs, ht, heq⟩ -
    refine ⟨hs.attempt m, ht.attempt m, ?_⟩
    rw [hpart hs, hpart ht, heq]
  · rintro s t m ⟨hs, ht, heq⟩ hm
    refine ⟨hs.attempt m, ht, ?_⟩
    rw [hpart hs, hown hm, hnil]
    exact heq
  · rintro s t ⟨-, -, heq⟩
    rw [heq]
  · rintro s t ⟨-, -, heq⟩
    rw [heq]

/-- A run publishes the same views without the moves that are none of the listing. -/
theorem Whole.views_filter {s : Screen} (h : s.Whole) (ms : List Move) :
    s.views ms = s.views (ms.filter Move.isListing) :=
  congrArg (_ :: ·) (publishedAlong_part Screen.listing (fun l ms => (l.attemptAll ms).1)
    Whole.listing_attempt (fun _ => rfl) Move.listing_eq_nil (·.engine.publications)
    (·.engine.published) h ms)

/-- A run publishes the same panels without the moves that are none of the loader. -/
theorem Whole.panels_filter {s : Screen} (h : s.Whole) (ms : List Move) :
    s.panels ms = s.panels (ms.filter Move.isLoading) :=
  congrArg (_ :: ·) (publishedAlong_part Screen.loader (fun l ms => (l.attemptAll ms).1)
    Whole.loader_attempt (fun _ => rfl) Move.loading_eq_nil Loader.publications Loader.panel h ms)

/-- The requests of a screen that opens are in order. -/
theorem inOrder_activate (defaults : Criteria) (limit : Nat) :
    (activate defaults limit).1.loader.InOrder :=
  (Loader.InOrder.ofLimit limit).activate

/-! ## Noninterference -/

/-- **List and panel do not interfere**, in any two runs of a screen that was opened with the same
defaults and limit. With the same moves of the listing both publish the same views, whatever becomes
of the requests for suggestions and whenever; with the same moves of the loader both publish the same
panels, whatever the user and the list queries do; and with the same moves of one kind both end with
the same list of that kind, whatever the outcomes and the order of the other requests. The last holds
of any loader, however often it is activated and deactivated. -/
theorem list_and_panel_separate (defaults : Criteria) (limit : Nat) :
    (∀ ms ms', ms.filter Move.isListing = ms'.filter Move.isListing →
        (activate defaults limit).1.views ms = (activate defaults limit).1.views ms') ∧
      (∀ ms ms', ms.filter Move.isLoading = ms'.filter Move.isLoading →
        (activate defaults limit).1.panels ms = (activate defaults limit).1.panels ms') ∧
      (∀ k ms ms', ms.filter (Move.concerns k) = ms'.filter (Move.concerns k) →
        ((activate defaults limit).1.attemptAll ms).1.loader.panel.lists.ofKind k =
          ((activate defaults limit).1.attemptAll ms').1.loader.panel.lists.ofKind k) ∧
      ∀ k ms ms', ms.filter (Loader.Move.concerns k) = ms'.filter (Loader.Move.concerns k) →
        ((Loader.ofLimit limit).attemptAll ms).1.panel.lists.ofKind k =
          ((Loader.ofLimit limit).attemptAll ms').1.panel.lists.ofKind k := by
  have hwhole := whole_activate defaults limit
  refine ⟨?_, ?_, ?_, ?_⟩
  · intro ms ms' hms
    rw [hwhole.views_filter ms, hwhole.views_filter ms', hms]
  · intro ms ms' hms
    rw [hwhole.panels_filter ms, hwhole.panels_filter ms', hms]
  · intro k ms ms' hms
    rw [hwhole.loader_attemptAll, hwhole.loader_attemptAll]
    refine Loader.list_eq_of_same_moves (inOrder_activate defaults limit) k ?_
    rw [filter_concerns_loading, filter_concerns_loading, hms]
  · intro k ms ms' hms
    exact Loader.list_eq_of_same_moves (.ofLimit limit) k hms

/-- Two runs with the same search and the same page for it. In one of them the tags come in before the
page and the labels never; in the other one the tags fail, long after it. Both publish the same three
views. -/
theorem views_whatever_the_panel :
    ∃ ms ms', ms ≠ ms' ∧
      (activate .standard 8).1.views ms = (activate .standard 8).1.views ms' ∧
      ((activate .standard 8).1.views ms).map View.totalCount = [0, 0, 3] ∧
      ((activate .standard 8).1.attemptAll ms).1.loader.panel.lists.ofKind .tags = ["prod"] ∧
      ((activate .standard 8).1.attemptAll ms').1.loader.panel.lists.ofKind .tags = [] := by
  obtain ⟨hviews, -⟩ := list_and_panel_separate .standard 8
  exact ⟨[.send 0, .mutate (.search "u"), .receive 0 (.ok [⟨"prod"⟩]), .wake,
      .respond 2 (.ok ⟨[], 3⟩)],
    [.mutate (.search "u"), .wake, .respond 2 (.ok ⟨[], 3⟩), .send 0, .send 1,
      .receive 0 (.error (.unavailable "503"))],
    by simp, hviews _ _ rfl, rfl, rfl, rfl⟩

end Screen

end Lookout
