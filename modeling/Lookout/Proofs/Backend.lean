import Mathlib.Data.List.Induction
import Lookout.Backend.Session

/-! # What a session answers
Calls wait side by side while the file of the backend changes under them. This file shows that **a page
and a list of suggestions are those of the snapshot as it was loaded, and a run is that of the file as
it is when the wait is over**, for every session; and that a call knows nothing of the others.

* `Snapshot.Finds`, `LooksUp`, `Answers`: which answer is right, for a snapshot and a file.
* `Session.entryAfter`, `Session.clock`: what moves leave under the path, and the time they take.
* `Session.Stands`: how a call stands, in terms of the moves alone; `Session.Stands.attempt` is one move.
* `Session.AgreeOn`: two sessions that may differ in everything but one call; kept by every move made in
  both, and by those that do not matter for the call (`Move.matters`), made in one.
* `Session.stands_of_load`: the whole statement. -/

namespace Lookout

/-! ## Which answer is right -/

/-- Whether this is the run that was asked for. -/
def Run.IsOf (r : Run) (t : Target) : Prop := r.taskId = t.taskId ∧ r.runId = t.runId

/-- What a snapshot **finds** under two identifiers: the first run with both, or a failure with just
these two. -/
inductive Snapshot.Finds (d : Snapshot) (t : Target) : Except CallFailure Run → Prop
  /-- There is such a run, and none before it. -/
  | found {before after : List Run} {r : Run} (hruns : d.runs = before ++ r :: after)
      (hr : r.IsOf t) (hbefore : ∀ q ∈ before, ¬q.IsOf t) : Finds d t (.ok r)
  /-- There is no such run. -/
  | missing (h : ∀ r ∈ d.runs, ¬r.IsOf t) : Finds d t (.error (.runNotFound t))

/-- A run is the one that was asked for iff it is the target. -/
theorem Run.target_eq_iff {r : Run} {t : Target} : r.target = t ↔ r.IsOf t := by
  obtain ⟨task, run⟩ := t
  rw [Run.target, Target.mk.injEq]
  rfl

/-- What is looked up is what is found. -/
theorem Snapshot.finds_iff {d : Snapshot} {t : Target} {o : Except CallFailure Run} :
    d.Finds t o ↔ d.lookUp t = o := by
  constructor
  · rintro (⟨hruns, hr, hbefore⟩ | ⟨h⟩)
    · have hfind : d.run? t = some _ := List.find?_eq_some_iff_append.mpr
        ⟨by simpa using Run.target_eq_iff.mpr hr, _, _, hruns, fun q hq => by
          simpa using mt Run.target_eq_iff.mp (hbefore q hq)⟩
      rw [lookUp, hfind]
    · have hfind : d.run? t = none := List.find?_eq_none.mpr fun r hr => by
        simpa using mt Run.target_eq_iff.mp (h r hr)
      rw [lookUp, hfind]
  · rintro rfl
    unfold lookUp
    cases hfind : d.run? t with
    | none =>
        refine .missing fun r hr hof => ?_
        simpa [Run.target_eq_iff.mpr hof] using List.find?_eq_none.mp hfind r hr
    | some r =>
        obtain ⟨hr, before, after, hruns, hbefore⟩ := List.find?_eq_some_iff_append.mp hfind
        refine .found hruns (Run.target_eq_iff.mp (by simpa using hr)) fun q hq hof => ?_
        simpa [Run.target_eq_iff.mpr hof] using hbefore q hq

/-- A text is a snapshot, or it is none; nothing else is wrong with it. -/
theorem Snapshot.parse_cases (path text : String) :
    (∃ d, Snapshot.parse path text = .ok d) ∨
      ∃ detail, Snapshot.parse path text = .error (.parse path detail) := by
  unfold parse
  cases Json.decodeDocument? Snapshot.decode text with
  | some d => exact .inl ⟨d, rfl⟩
  | none => exact .inr ⟨_, rfl⟩

namespace Backend

/-- What is **looked up** in a file: it counts as no answer if the file has no text, as an answer that
makes no sense if the text is no snapshot, and otherwise as what the snapshot says. -/
inductive LooksUp (path : String) (file : Except ReadFault String) (t : Target) :
    Except CallFailure Run → Prop
  /-- The file has no text. -/
  | unavailable {fault : ReadFault} (hfile : file = .error fault) :
      LooksUp path file t (.error (.unavailable (SnapshotError.read path fault).message))
  /-- The text is no snapshot. -/
  | invalidResponse {text detail : String} (hfile : file = .ok text)
      (hparse : Snapshot.parse path text = .error (.parse path detail)) :
      LooksUp path file t (.error (.invalidResponse (SnapshotError.parse path detail).message))
  /-- The text is a snapshot. -/
  | parsed {text : String} {d : Snapshot} {o : Except CallFailure Run} (hfile : file = .ok text)
      (hparse : Snapshot.parse path text = .ok d) (ho : d.Finds t o) : LooksUp path file t o

/-- Which **answers** are right while the backend's file holds this. -/
inductive Answers (b : Backend) (file : Except ReadFault String) : Request → Answer → Prop
  /-- A page is one of the snapshot. -/
  | entities (c : Criteria) : Answers b file (.entities c) (.entities (b.snapshot.query c))
  /-- So is a list of suggestions. -/
  | suggestions (k : SuggestionKind) :
      Answers b file (.suggestions k) (.suggestions (b.snapshot.suggestions k))
  /-- A run is one of the file that the backend came from. -/
  | live {path : String} {t : Target} {o : Except CallFailure Run} (hsource : b.source = some path)
      (ho : LooksUp path file t o) : Answers b file (.run t) (.run o)
  /-- If it came from no file, a run is one of the snapshot as well. -/
  | fixed {t : Target} {o : Except CallFailure Run} (hsource : b.source = none)
      (ho : b.snapshot.Finds t o) : Answers b file (.run t) (.run o)

variable {b : Backend} {file : Except ReadFault String}

/-- A backend that was loaded holds the snapshot that the file was. -/
theorem eq_of_load {path : String} {e : Event} (h : load path file = .ok (b, e)) :
    ∃ text d, file = .ok text ∧ Snapshot.parse path text = .ok d ∧ b = ⟨d, some path, 0⟩ := by
  cases file with
  | error fault => cases h
  | ok text =>
      simp only [load, Snapshot.load] at h
      rcases Snapshot.parse_cases path text with ⟨d, hd⟩ | ⟨detail, hdetail⟩
      · rw [hd] at h
        cases h
        exact ⟨text, d, rfl, hd, rfl⟩
      · rw [hdetail] at h
        cases h

/-- **What a backend gives for a run is what is looked up in its file.** -/
theorem looksUp_run {path : String} (hsource : b.source = some path) (file : Except ReadFault String)
    (t : Target) : LooksUp path file t (b.run file t) := by
  simp only [run, hsource]
  cases file with
  | error fault => exact .unavailable rfl
  | ok text =>
      rcases Snapshot.parse_cases path text with ⟨d, hd⟩ | ⟨detail, hdetail⟩
      · simp only [Snapshot.load, hd]
        exact .parsed rfl hd (Snapshot.finds_iff.mpr rfl)
      · simp only [Snapshot.load, hdetail]
        exact .invalidResponse rfl hdetail

/-- **A backend answers right.** -/
theorem answers_answer (b : Backend) (file : Except ReadFault String) (r : Request) :
    b.Answers file r (b.answer file r) := by
  cases r with
  | entities c => exact .entities c
  | suggestions k => exact .suggestions k
  | run t =>
      cases hsource : b.source with
      | none =>
          refine .fixed hsource (Snapshot.finds_iff.mpr ?_)
          rw [run, hsource]
      | some path => exact .live hsource (looksUp_run hsource file t)

/-- A backend that came from no file answers the same whatever a file holds. -/
theorem answer_of_source_none (h : b.source = none) (file file' : Except ReadFault String)
    (r : Request) : b.answer file r = b.answer file' r := by
  cases r with
  | entities c => rfl
  | suggestions k => rfl
  | run t => simp only [answer, run, h]

namespace Session

variable {s s' : Session} {m : Move} {ms : List Move} {id : Nat}

/-! ## Moves -/

@[simp] theorem attemptAll_cons (s : Session) (m : Move) (ms : List Move) :
    (s.attemptAll (m :: ms)).1 = ((s.attempt m).1.attemptAll ms).1 := rfl

theorem attemptAll_append (s : Session) (ms ns : List Move) :
    (s.attemptAll (ms ++ ns)).1 = ((s.attemptAll ms).1.attemptAll ns).1 := by
  induction ms generalizing s with
  | nil => rfl
  | cons m ms ih => exact ih _

/-- How a call stands after it is made: if the number is taken, as it stood before. -/
theorem calls_attempt_call (s : Session) (i : Nat) (r : Request) (id : Nat) :
    (s.attempt (.call i r)).1.calls id =
      if id = i then some ((s.calls i).getD ⟨r, s.now, none⟩) else s.calls id := by
  cases h : s.calls i with
  | none => simp only [attempt, step, h, Option.getD_some, Option.getD_none, record]
  | some c =>
      simp only [attempt, step, h, Option.getD_none, Option.getD_some]
      split
      · next heq => rw [heq, h]
      · rfl

/-- A call that is due, with its answer; any other as it is. -/
def attend (s : Session) (c : Call) : Call :=
  if s.isDue c then { c with answer := some (s.answer c) } else c

/-- A call is due if it has no answer and has waited. -/
theorem isDue_iff {c : Call} :
    s.isDue c = true ↔ c.answer = none ∧ c.since + s.backend.latency ≤ s.now := by
  rw [isDue, Bool.and_eq_true, Option.isNone_iff_eq_none, decide_eq_true_iff]

/-- How a call stands after it was to get its answer. -/
theorem calls_attempt_finish (s : Session) (i id : Nat) :
    (s.attempt (.finish i)).1.calls id = if id = i then (s.calls i).map s.attend else s.calls id := by
  cases h : s.calls i with
  | none =>
      simp only [attempt, step, h, Option.getD_none, Option.map_none]
      split
      · next heq => rw [heq, h]
      · rfl
  | some c =>
      by_cases hdue : s.isDue c
      · simp only [attempt, step, h, attend, if_pos hdue, Option.getD_some, Option.map_some, record]
      · simp only [attempt, step, h, attend, if_neg hdue, Option.getD_none, Option.map_some]
        split
        · next heq => rw [heq, h]
        · rfl

/-- What a move leaves under the path. -/
def Move.entryAfter (entry : Entry) : Move → Entry
  | .change entry => entry
  | .pass _ | .call .. | .finish _ => entry

/-- How long a move takes. -/
def Move.duration : Move → Nat
  | .pass ms => ms
  | .change _ | .call .. | .finish _ => 0

/-- What moves leave under the path. -/
def entryAfter (entry : Entry) (ms : List Move) : Entry := ms.foldl Move.entryAfter entry

/-- How long moves take. -/
def clock : List Move → Nat
  | [] => 0
  | m :: ms => m.duration + clock ms

/-- A move leaves the backend alone, and calls leave the file and the clock alone. -/
theorem attempt_frame (s : Session) (m : Move) :
    (s.attempt m).1.backend = s.backend ∧ (s.attempt m).1.entry = m.entryAfter s.entry ∧
      (s.attempt m).1.now = s.now + m.duration := by
  cases m with
  | change entry => exact ⟨rfl, rfl, rfl⟩
  | pass ms => exact ⟨rfl, rfl, rfl⟩
  | call i r =>
      cases h : s.calls i <;> simp only [attempt, step, h] <;> exact ⟨rfl, rfl, rfl⟩
  | finish i =>
      cases h : s.calls i with
      | none => simp only [attempt, step, h]; exact ⟨rfl, rfl, rfl⟩
      | some c =>
          by_cases hdue : s.isDue c <;> simp only [attempt, step, h, hdue] <;> exact ⟨rfl, rfl, rfl⟩

/-- So do several moves. -/
theorem attemptAll_frame (s : Session) (ms : List Move) :
    (s.attemptAll ms).1.backend = s.backend ∧ (s.attemptAll ms).1.entry = entryAfter s.entry ms ∧
      (s.attemptAll ms).1.now = s.now + clock ms := by
  induction ms generalizing s with
  | nil => exact ⟨rfl, rfl, rfl⟩
  | cons m ms ih =>
      obtain ⟨hbackend, hentry, hnow⟩ := attempt_frame s m
      obtain ⟨hbackend', hentry', hnow'⟩ := ih (s.attempt m).1
      rw [attemptAll_cons, hbackend', hentry', hnow', hbackend, hentry, hnow]
      exact ⟨rfl, rfl, Nat.add_assoc _ _ _⟩

/-! ## How a call stands -/

/-- How a call stands after some moves of a session that begins with this file. -/
def callAfter (b : Backend) (entry : Entry) (ms : List Move) (id : Nat) : Option Call :=
  ((start b entry).attemptAll ms).1.calls id

/-- Moves in which a call could not get its answer **yet**: wherever it was to, it had not waited long
enough. -/
def NotYet (wait : Nat) (id : Nat) (ms : List Move) : Prop :=
  ∀ earlier, earlier ++ [.finish id] <+: ms → clock earlier < wait

/-- How a call **stands** after some moves, with a backend whose file held `entry` at first. What is
known is only which moves there were. -/
inductive Stands (b : Backend) (entry : Entry) (ms : List Move) (id : Nat) : Option Call → Prop
  /-- The call was not made. -/
  | unknown (hms : ∀ r, .call id r ∉ ms) : Stands b entry ms id none
  /-- The call was made, and has not got its answer yet. -/
  | waiting {before between : List Move} {r : Request}
      (hms : ms = before ++ .call id r :: between) (hfirst : ∀ q, .call id q ∉ before)
      (hyet : NotYet b.latency id between) :
      Stands b entry ms id (some ⟨r, clock before, none⟩)
  /-- The call was made, and it got its answer as soon as it could after the wait: one that was right
  while the path held what had been left there by then. -/
  | answered {before between after : List Move} {r : Request} {a : Answer}
      (hms : ms = before ++ .call id r :: (between ++ .finish id :: after))
      (hfirst : ∀ q, .call id q ∉ before) (hyet : NotYet b.latency id between)
      (hwait : b.latency ≤ clock between)
      (ha : b.Answers (entryAfter entry (before ++ between)).read r a) :
      Stands b entry ms id (some ⟨r, clock before, some a⟩)

theorem clock_append (ms ns : List Move) : clock (ms ++ ns) = clock ms + clock ns := by
  induction ms with
  | nil => exact (Nat.zero_add _).symm
  | cons m ms ih => rw [List.cons_append, clock, clock, ih, Nat.add_assoc]

/-- To make a call takes no time. -/
theorem clock_append_call (ms : List Move) (id : Nat) (r : Request) (ns : List Move) :
    clock (ms ++ .call id r :: ns) = clock ms + clock ns := by
  rw [clock_append, clock, Move.duration, Nat.zero_add]

theorem entryAfter_append (entry : Entry) (ms ns : List Move) :
    entryAfter entry (ms ++ ns) = entryAfter (entryAfter entry ms) ns :=
  List.foldl_append

/-- Without a move there is nothing that came too early. -/
theorem notYet_nil (wait id : Nat) : NotYet wait id [] := by
  intro earlier h
  simp at h

/-- One more move makes a difference if it is the one that should bring the answer. -/
theorem notYet_concat {wait : Nat} (h : NotYet wait id ms)
    (hm : m = .finish id → clock ms < wait) : NotYet wait id (ms ++ [m]) := by
  intro earlier hearlier
  rcases List.prefix_concat_iff.mp hearlier with heq | hprefix
  · obtain ⟨rfl, hfinish⟩ := List.concat_inj.mp (by simpa using heq)
    exact hm hfinish.symm
  · exact h earlier hprefix

namespace Stands

variable {b : Backend} {entry : Entry} {o : Option Call}

/-- A call stands as before if it is not made just now and gets no answer either. -/
theorem skip (h : Stands b entry ms id o) (hcall : o = none → ∀ r, m ≠ .call id r)
    (hfinish : ∀ c, o = some c → c.answer = none → m = .finish id →
      clock ms < c.since + b.latency) : Stands b entry (ms ++ [m]) id o := by
  cases h with
  | unknown hms =>
      refine .unknown fun r hr => ?_
      rcases List.mem_append.mp hr with hr | hr
      · exact hms r hr
      · exact hcall rfl r (List.mem_singleton.mp hr).symm
  | @waiting before between r hms hfirst hyet =>
      -- The move comes after the call, so it is one more of those in between.
      refine .waiting (by rw [hms, List.append_assoc, List.cons_append]) hfirst
        (notYet_concat hyet fun hm => ?_)
      have hearly : clock ms < clock before + b.latency := hfinish _ rfl rfl hm
      rw [hms, clock_append_call] at hearly
      exact Nat.lt_of_add_lt_add_left hearly
  | @answered before between after r a hms hfirst hyet hwait ha =>
      have hms' : ms ++ [m] = before ++ .call id r :: (between ++ .finish id :: (after ++ [m])) := by
        rw [hms]
        simp only [List.append_assoc, List.cons_append]
      exact .answered hms' hfirst hyet hwait ha

/-- A call that is to get its answer stands as it should. -/
theorem finish (h : Stands b entry ms id (s.calls id)) (hbackend : s.backend = b)
    (hentry : s.entry = entryAfter entry ms) (hnow : s.now = clock ms) :
    Stands b entry (ms ++ [.finish id]) id ((s.calls id).map s.attend) := by
  generalize s.calls id = o at h
  cases o with
  | none => exact h.skip (fun _ _ => nofun) fun _ hc => nomatch hc
  | some c =>
      rw [Option.map_some, attend]
      by_cases hdue : s.isDue c
      · rw [if_pos hdue]
        obtain ⟨hnone, hwaited⟩ := isDue_iff.mp hdue
        -- What is due has no answer, so the call was one that waits.
        cases h with
        | @waiting before between r hms hfirst hyet =>
            rw [hbackend, hnow, hms, clock_append_call] at hwaited
            have hfile : s.entry = entryAfter entry (before ++ between) := by
              rw [hentry, hms, entryAfter_append, entryAfter_append]
              rfl
            have hms' : ms ++ [.finish id] = before ++ .call id r :: (between ++ .finish id :: []) := by
              rw [hms, List.append_assoc, List.cons_append]
            refine .answered hms' hfirst hyet (Nat.le_of_add_le_add_left hwaited) ?_
            rw [← hfile, ← hbackend]
            exact answers_answer _ _ _
        | answered _ _ _ _ _ => cases hnone
      · rw [if_neg hdue]
        refine h.skip (fun hn => nomatch hn) (fun c' hc' hnone _ => ?_)
        obtain rfl := Option.some.inj hc'
        rw [← hnow, ← hbackend]
        exact Nat.lt_of_not_le fun hle => hdue (isDue_iff.mpr ⟨hnone, hle⟩)

/-- **One move** changes how a call stands as it should. -/
theorem attempt (h : Stands b entry ms id (s.calls id)) (hbackend : s.backend = b)
    (hentry : s.entry = entryAfter entry ms) (hnow : s.now = clock ms) (m : Move) :
    Stands b entry (ms ++ [m]) id ((s.attempt m).1.calls id) := by
  cases m with
  | change entry' => exact h.skip (fun _ _ => nofun) (fun _ _ _ => nofun)
  | pass wait => exact h.skip (fun _ _ => nofun) (fun _ _ _ => nofun)
  | call i r =>
      rw [calls_attempt_call]
      by_cases hid : id = i
      · subst hid
        rw [if_pos rfl]
        generalize s.calls id = o at h
        cases o with
        | none =>
            cases h with
            | unknown hms =>
                rw [Option.getD_none, hnow]
                exact .waiting rfl hms (notYet_nil _ _)
        | some c => exact h.skip (fun hn => nomatch hn) (fun _ _ _ => nofun)
      · rw [if_neg hid]
        refine h.skip (fun _ q hq => ?_) (fun _ _ _ => nofun)
        exact hid (Move.call.inj hq).1.symm
  | finish i =>
      rw [calls_attempt_finish]
      by_cases hid : id = i
      · subst hid
        rw [if_pos rfl]
        exact h.finish hbackend hentry hnow
      · rw [if_neg hid]
        refine h.skip (fun _ _ => nofun) (fun _ _ _ hq => ?_)
        exact absurd (Move.finish.inj hq).symm hid

/-- **Every call stands as it should**, after any moves. -/
theorem attemptAll (b : Backend) (entry : Entry) (ms : List Move) (id : Nat) :
    Stands b entry ms id (callAfter b entry ms id) := by
  unfold callAfter
  -- The induction takes the last move off, since a history grows at its end.
  induction ms using List.reverseRecOn with
  | nil => exact .unknown fun _ => List.not_mem_nil
  | append_singleton ms m ih =>
      obtain ⟨hbackend, hentry, hnow⟩ := attemptAll_frame (start b entry) ms
      rw [attemptAll_append]
      exact ih.attempt hbackend hentry (hnow.trans (Nat.zero_add _)) m

end Stands

/-! ## Sessions that agree on a call -/

/-- Whether a move **matters** for a call: time always does, other calls never do, and what happens to
the file does unless the backend came from no file. -/
def Move.matters (b : Backend) (id : Nat) : Move → Bool
  | .change _ => b.source.isSome
  | .pass _ => true
  | .call i _ | .finish i => i = id

/-- What a move that does not matter for a call leaves alone: the clock, the call, and the file if the
backend came from one. -/
theorem frame_of_not_matters {b : Backend} (hm : m.matters b id = false) :
    m.duration = 0 ∧ (b.source = none ∨ ∀ entry, m.entryAfter entry = entry) ∧
      ∀ s : Session, (s.attempt m).1.calls id = s.calls id := by
  cases m with
  | change _ => exact ⟨rfl, .inl (by simpa [Move.matters] using hm), fun _ => rfl⟩
  | pass _ => cases hm
  | call i r =>
      have hid : ¬id = i := fun heq => by simp [Move.matters, heq] at hm
      exact ⟨rfl, .inr fun _ => rfl, fun s => by rw [calls_attempt_call, if_neg hid]⟩
  | finish i =>
      have hid : ¬id = i := fun heq => by simp [Move.matters, heq] at hm
      exact ⟨rfl, .inr fun _ => rfl, fun s => by rw [calls_attempt_finish, if_neg hid]⟩

/-- Two sessions **agree on a call** if it stands the same in both, and if it will be answered the
same. -/
structure AgreeOn (id : Nat) (s s' : Session) : Prop where
  /-- The backends are the same. -/
  backend_eq : s.backend = s'.backend
  /-- So are their files, if it came from one. -/
  entry_eq : s.backend.source = none ∨ s.entry = s'.entry
  /-- So are the clocks. -/
  now_eq : s.now = s'.now
  /-- The call stands the same. -/
  call_eq : s.calls id = s'.calls id

namespace AgreeOn

/-- Before any call, sessions of a backend agree on all of them, unless the backend came from a file and
they begin with different ones. -/
theorem start {b : Backend} {entry entry' : Entry} (h : b.source = none ∨ entry = entry') (id : Nat) :
    AgreeOn id (start b entry) (start b entry') :=
  ⟨rfl, h, rfl, rfl⟩

/-- Sessions that agree on a call attend to it alike. -/
theorem attend_eq (h : AgreeOn id s s') : s.attend = s'.attend := by
  obtain ⟨hbackend, hentry, hnow, -⟩ := h
  have hanswer : s.answer = s'.answer := by
    funext c
    rcases hentry with hsource | hentry
    · rw [Session.answer, Session.answer, ← hbackend]
      exact answer_of_source_none hsource _ _ _
    · rw [Session.answer, Session.answer, hbackend, hentry]
  funext c
  rw [attend, attend, isDue, isDue, hanswer, hbackend, hnow]

/-- The **same move** in both keeps them in agreement. -/
theorem attempt (h : AgreeOn id s s') (m : Move) : AgreeOn id (s.attempt m).1 (s'.attempt m).1 := by
  obtain ⟨hbackend, hentry, hnow⟩ := attempt_frame s m
  obtain ⟨hbackend', hentry', hnow'⟩ := attempt_frame s' m
  constructor
  · rw [hbackend, hbackend', h.backend_eq]
  · rw [hbackend, hentry, hentry']
    exact h.entry_eq.imp_right fun heq => by rw [heq]
  · rw [hnow, hnow', h.now_eq]
  · cases m with
    | change _ => exact h.call_eq
    | pass _ => exact h.call_eq
    | call i r =>
        rw [calls_attempt_call, calls_attempt_call]
        split
        · next heq => rw [← heq, h.call_eq, h.now_eq]
        · exact h.call_eq
    | finish i =>
        rw [calls_attempt_finish, calls_attempt_finish]
        split
        · next heq => rw [← heq, h.call_eq, h.attend_eq]
        · exact h.call_eq

/-- A move that **does not matter** for the call can be made in one of them. -/
theorem attempt_left (h : AgreeOn id s s') (hm : m.matters s.backend id = false) :
    AgreeOn id (s.attempt m).1 s' := by
  obtain ⟨hbackend, hentry, hnow⟩ := attempt_frame s m
  obtain ⟨hduration, hfile, hcalls⟩ := frame_of_not_matters hm
  constructor
  · rw [hbackend, h.backend_eq]
  · rw [hbackend, hentry]
    rcases hfile with hsource | hsame
    · exact .inl hsource
    · rw [hsame]
      exact h.entry_eq
  · rw [hnow, hduration, h.now_eq, Nat.add_zero]
  · rw [hcalls, h.call_eq]

/-- **What does not matter for a call can be left out.** -/
theorem attemptAll (h : AgreeOn id s s') (ms : List Move) :
    AgreeOn id (s.attemptAll ms).1 (s'.attemptAll (ms.filter (·.matters s.backend id))).1 := by
  induction ms generalizing s s' with
  | nil => exact h
  | cons m ms ih =>
      obtain ⟨hbackend, -, -⟩ := attempt_frame s m
      rw [attemptAll_cons, List.filter_cons]
      split
      · have hagree := ih (h.attempt m)
        rwa [hbackend] at hagree
      · next hm =>
        have hagree := ih (h.attempt_left (Bool.eq_false_iff.mpr hm))
        rwa [hbackend] at hagree

end AgreeOn

/-- **Snapshot and live data.** After any moves, in a session of a backend that was loaded from a file,
each call stands as the moves say: a page and a list of suggestions come from the document that was
read when the backend was loaded, whatever became of the file, and a run comes from what the file holds
when the wait for it is over. Other calls, whatever their answers, make no difference. In a session of a
backend that came from no file, all answers come from its snapshot, and nothing that happens under a
path makes any difference either. -/
theorem stands_of_load {path : String} {entry : Entry} {b : Backend} {e : Event}
    (h : Backend.load path entry.read = .ok (b, e)) (latency : Nat) :
    (∃ text, entry.read = .ok text ∧ Snapshot.parse path text = .ok b.snapshot) ∧
      b.source = some path ∧
      (∀ ms id, let served : Backend := { b with latency := latency }
        Stands served entry ms id (callAfter served entry ms id) ∧
          callAfter served entry ms id =
            callAfter served entry (ms.filter (·.matters served id)) id) ∧
      ∀ d here there ms id, let served : Backend := { ofSnapshot d with latency := latency }
        Stands served here ms id (callAfter served here ms id) ∧
          callAfter served here ms id = callAfter served there (ms.filter (·.matters served id)) id := by
  obtain ⟨text, d, hread, hparse, rfl⟩ := eq_of_load h
  refine ⟨⟨text, hread, hparse⟩, rfl, fun ms id => ⟨Stands.attemptAll _ _ _ _, ?_⟩,
    fun d' here there ms id => ⟨Stands.attemptAll _ _ _ _, ?_⟩⟩
  · exact ((AgreeOn.start (.inr rfl) id).attemptAll ms).call_eq
  · exact ((AgreeOn.start (.inl rfl) id).attemptAll ms).call_eq

/-- Somebody asks for a run and for the suggested tags, and the file is removed before either has an
answer. There is no run any more, but the tags are still those of the file, and they would be with no
other call. -/
theorem tags_of_removed_file :
    ∃ (entry : Entry) (b : Backend) (e : Event),
      entry.read = .ok "\x7b\"tags\":[\x7b\"name\":\"nightly\"\x7d]\x7d" ∧
      Backend.load "data.json" entry.read = .ok (b, e) ∧
      let served : Backend := { b with latency := 20 }
      let ms : List Move := [.call 0 (.run ⟨"ingest", "r-1"⟩), .call 1 (.suggestions .tags), .pass 20,
        .change .missing, .finish 0, .finish 1]
      callAfter served entry ms 0 = some ⟨.run ⟨"ingest", "r-1"⟩, 0, some (.run (.error (.unavailable
        "Failed to read fixture 'data.json': No such file or directory (os error 2)")))⟩ ∧
      callAfter served entry ms 1 = some ⟨.suggestions .tags, 0, some (.suggestions [⟨"nightly"⟩])⟩ ∧
      callAfter served entry ms 1 = callAfter served entry
        [.call 1 (.suggestions .tags), .pass 20, .change .missing, .finish 1] 1 := by
  let text := "\x7b\"tags\":[\x7b\"name\":\"nightly\"\x7d]\x7d"
  let d : Snapshot := ⟨[], [⟨"nightly"⟩], [], [], [], by decide⟩
  have hread : (Entry.ofText text).read = .ok text := Entry.read_ofText text
  have hdecode : Json.decodeDocument? Snapshot.decode text = some d := by decide +kernel
  have hload : Backend.load "data.json" (Entry.ofText text).read =
      .ok (⟨d, some "data.json", 0⟩, .snapshotLoaded "data.json" 0 0) := by
    rw [hread]
    simp only [Backend.load, Snapshot.load, Snapshot.parse, hdecode]
    rfl
  obtain ⟨-, -, hserved, -⟩ := stands_of_load hload 20
  exact ⟨_, _, _, hread, hload, rfl, rfl, (hserved _ 1).2⟩

end Session

end Backend

end Lookout
