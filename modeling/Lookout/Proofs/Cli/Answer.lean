import Lookout.Proofs.Cli.Document
import Lookout.Proofs.Cli.Options
import Lookout.Proofs.Cli.Spelling
import Lookout.Proofs.Dashboard.Rest

/-! # The answer of the list command
`list` opens a screen, which sends its queries at once, and only then carries out its options, one by
one. Which of the queries are answered when is anybody's guess. This file shows that none of it is
seen in the answer: **it is a function of the flags, the configuration and the snapshot**, and the
flags count as a set.

* `runScreen_at_rest`: the screen that the command shows.
* `program_of_list`: the whole program, for an invocation of `list`.
* `list_answers_flags`: the whole statement. -/

namespace Lookout.Cli

open Listing Suggestions

/-! ## Running the command -/

/-- What an output adds to the answer. -/
def Output.answer? : Output → Option String
  | .answer text => some text
  | .notice _ | .event _ => none

/-- The **answers** that a command gives. -/
def Result.answers (r : Result) : List String := r.output.filterMap Output.answer?

@[simp] theorem Result.answers_after (earlier : List Output) (r : Result) :
    (r.after earlier).answers = earlier.filterMap Output.answer? ++ r.answers :=
  List.filterMap_append

/-- Events are no part of the answer. -/
@[simp] theorem Output.filterMap_answer?_events (es : List Event) :
    (Output.events es).filterMap Output.answer? = [] := by
  rw [Output.events, List.filterMap_map]
  exact List.filterMap_eq_nil_iff.mpr fun _ _ => rfl

/-- The view that `list` shows. -/
def ListOptions.view (o : ListOptions) (c : Config) (d : Snapshot) : View :=
  .atRest d (o.config c).defaultCriteria (o.criteria c)

/-- The screen of the command is opened, taken through the mutations, and left alone. -/
theorem runScreen_eq (c : Config) (b : Backend) (o : ListOptions) :
    (runScreen c b o).1 =
      ((Dashboard.activate b c).1.attemptAll (o.mutations.map .mutate)).1.settle.1 := by
  simp only [runScreen]

/-- **The screen that the command shows is at rest**, with the criteria that its options make. -/
theorem runScreen_at_rest (c : Config) (b : Backend) (o : ListOptions) :
    (runScreen (o.config c) b o).1.view = o.view c b.snapshot ∧
      (runScreen (o.config c) b o).1.panel = ⟨.atRest b.snapshot c.effectiveLimit, []⟩ := by
  obtain ⟨hmutates, hopen⟩ :=
    (Dashboard.Mutates.refl (d := (Dashboard.activate b (o.config c)).1)).attemptAll
      (Screen.intact_activate _ _) rfl o.mutations
  obtain ⟨hsettles, hopen'⟩ := hmutates.leadsTo.settles_alone hopen
  rw [runScreen_eq]
  exact hmutates.view_and_panel hsettles hopen'

/-- What the command gives out comes from its screen. -/
theorem runList_eq (c : Config) (b : Backend) (o : ListOptions) :
    runList c b o =
      (showList o.json (runScreen c b o).1.view (runScreen c b o).1.panel.lists).after
        (Output.events (runScreen c b o).2) := by
  simp only [runList]

/-- The command succeeds and answers with what its screen shows. -/
theorem runList_spec (c : Config) (b : Backend) (o : ListOptions) :
    (runList (o.config c) b o).failure = none ∧
      (runList (o.config c) b o).answers =
        [listAnswer o.json (o.view c b.snapshot) (.atRest b.snapshot c.effectiveLimit)] := by
  obtain ⟨hview, hpanel⟩ := runScreen_at_rest c b o
  rw [runList_eq, hview, hpanel]
  refine ⟨rfl, ?_⟩
  rw [Result.answers_after, Output.filterMap_answer?_events]
  rfl

/-- A configuration that can be had comes with events only. -/
theorem filterMap_answer?_of_configure {data : Option String} {layers : List Layer} {c : Config}
    {out : List Output} (h : configure data layers = .ok (c, out)) :
    out.filterMap Output.answer? = [] := by
  unfold configure at h
  split at h
  · obtain ⟨-, rfl⟩ := Prod.mk.inj (Except.ok.inj h)
    exact Output.filterMap_answer?_events _
  · cases h

/-- A snapshot that can be loaded can be opened, which is reported. -/
theorem openBackend_of_load {c : Config} {path : String} {file : Except ReadFault String}
    {d : Snapshot} (h : Snapshot.load path file = .ok d) :
    ∃ es, openBackend c path file = .ok (⟨d, some path, c.effectiveLatency⟩, Output.events es) := by
  simp [openBackend, Backend.load, h]

/-- With a configuration and a snapshot a command goes on, after some events. -/
theorem withBackend_eq {files : Files} {data : Option String} {c : Config} {out : List Output}
    {path : String} {d : Snapshot} (change : Config → Config)
    (hconfig : configure data files.layers = .ok (c, out))
    (hpath : (change c).snapshotPath = some path)
    (hfile : Snapshot.load path (files.read path) = .ok d)
    (next : Config → String → Backend → Stage) :
    ∃ earlier, earlier.filterMap Output.answer? = [] ∧
      withBackend files data change next =
        (next (change c) path ⟨d, some path, (change c).effectiveLatency⟩).after earlier := by
  obtain ⟨es, hopened⟩ := openBackend_of_load (c := change c) hfile
  refine ⟨out ++ Output.events es, ?_, ?_⟩
  · rw [List.filterMap_append, filterMap_answer?_of_configure hconfig,
      Output.filterMap_answer?_events]
    rfl
  · simp only [withBackend, hconfig, snapshotPath, hpath, hopened]

/-- What is given out when a command is done is no part of the answer. -/
theorem Result.answers_close (cmd : Command) {r : Result} (h : r.failure = none) :
    (r.close cmd).failure = none ∧ (r.close cmd).answers = r.answers := by
  refine ⟨h, ?_⟩
  unfold close answers
  rw [List.filterMap_append, h]
  exact List.append_nil _

/-- **The program, asked for a list**, succeeds if configuration and snapshot can be had, and answers
with what the screen shows. -/
theorem program_of_list {files : Files} {rereads : String → Nat → Except ReadFault String}
    {i : Invocation} {o : ListOptions} {c : Config} {out : List Output} {path : String} {d : Snapshot}
    (hlist : i.command = .list o) (hconfig : configure i.data files.layers = .ok (c, out))
    (hpath : c.snapshotPath = some path) (hfile : Snapshot.load path (files.read path) = .ok d)
    (n : Nat) :
    ∃ r, program files rereads i n = some r ∧ r.failure = none ∧
      r.answers = [listAnswer o.json (o.view c d) (.atRest d c.effectiveLimit)] := by
  obtain ⟨earlier, hearlier, hbackend⟩ :=
    withBackend_eq (withPageSize · o.pageSize) hconfig hpath hfile
      fun c _ b => .done (runList c b o)
  let b : Backend := ⟨d, some path, (o.config c).effectiveLatency⟩
  obtain ⟨hnone, hanswers⟩ := runList_spec c b o
  generalize hr : runList (o.config c) b o = r at hnone hanswers
  -- What is given out before the command runs comes in three layers, none of which is an answer.
  let whole := ((r.after earlier).after [.event (.listStarted o.json)]).after (opening (.list o))
  have hstart : start files i = .done whole := by
    rw [start, hlist, begin, hbackend]
    show Stage.done ((((runList (o.config c) b o).after _).after _).after _) = _
    rw [hr]
  have hwhole : whole.failure = none := hnone
  obtain ⟨hclosed, hkept⟩ := Result.answers_close (.list o) hwhole
  refine ⟨whole.close (.list o), ?_, hclosed, ?_⟩
  · rw [program, hstart, hlist]
  · rw [hkept, Result.answers_after, Result.answers_after, Result.answers_after, hearlier, hanswers]
    rfl

/-- The program does the same for invocations of `list` whose options do the same. -/
theorem program_congr {files : Files} {rereads : String → Nat → Except ReadFault String}
    {i i' : Invocation} {o o' : ListOptions} (hlist : i.command = .list o)
    (hlist' : i'.command = .list o') (hdata : i.data = i'.data)
    (hmutations : o.mutations = o'.mutations) (hsize : o.pageSize = o'.pageSize)
    (hjson : o.json = o'.json) (n : Nat) :
    program files rereads i n = program files rereads i' n := by
  have hrun : ∀ c b, runList c b o = runList c b o' := by
    intro c b
    have hscreen : runScreen c b o = runScreen c b o' := by
      simp only [runScreen, hmutations]
    simp only [runList, hscreen, hjson]
  have hstart : start files i = start files i' := by
    simp only [start, begin, hlist, hlist', hdata, hsize, hjson, hrun]
    rfl
  simp only [program, hstart, hlist, hlist']
  rfl

/-! ## The answer -/

/-- **The answer of `list` is a function of the flags, which count as a set.** Arguments that are
accepted spell flags `fs`, and these ask for criteria `k`. Whoever waits for a screen on which the
options were carried out, however it was scheduled, can be served, and then sees the page that the
snapshot has for `k` and the first suggestions of every kind. This is what the program answers with,
and if JSON is asked for, whoever reads the one document it prints finds `k`, the page, the number of
all matches, whether the listing counts as narrowed, and these suggestions. The listing counts as
narrowed iff a text or a value of a facet was given. Arguments that spell the same flags, in whatever
order and however often, make the program do the same. -/
theorem list_answers_flags {files : Files} {rereads : String → Nat → Except ReadFault String}
    {args : List String} {i : Invocation} {o : ListOptions} {c : Config} {out : List Output}
    {path : String} {d : Snapshot} (hparse : Invocation.parse args = .ok i)
    (hlist : i.command = .list o) (hconfig : configure i.data files.layers = .ok (c, out))
    (hpath : c.snapshotPath = some path) (hfile : Snapshot.load path (files.read path) = .ok d) :
    ∃ fs k, (∀ gs, SpellsList args gs ↔ gs = fs) ∧ (∀ k', AskedFor fs c k' ↔ k' = k) ∧
      (∀ b e, b.snapshot = d → (Dashboard.activate b (o.config c)).1.Mutates o.mutations e →
        e.screen.isOpen = true →
        (∃ f v p, e.Settles f v p ∧ f.screen.isOpen = true) ∧
        ∀ f v p, e.Settles f v p → f.screen.isOpen = true →
          v = .atRest d (o.config c).defaultCriteria k ∧ p = ⟨.atRest d c.effectiveLimit, []⟩) ∧
      (∀ n, ∃ r text, program files rereads i n = some r ∧ r.failure = none ∧ r.answers = [text] ∧
        text = listAnswer o.json (.atRest d (o.config c).defaultCriteria k)
          (.atRest d c.effectiveLimit) ∧
        (o.json = true → Reports text ⟨k, k.isFiltered (o.config c).defaultCriteria,
          (d.query k).count, (d.query k).data, .atRest d c.effectiveLimit,
          (View.atRest d (o.config c).defaultCriteria k).emptyState.map EmptyState.message⟩)) ∧
      (o.json = true ↔ ∃ v, (.json, v) ∈ fs) ∧
      (k.isFiltered (o.config c).defaultCriteria = true ↔
        (∃ t, t ≠ "" ∧ (.search, some t) ∈ fs) ∨ ∃ f v, (.facet f, some v) ∈ fs) ∧
      ∀ args' i' o' fs', Invocation.parse args' = .ok i' → i'.command = .list o' →
        SpellsList args' fs' → (∀ p, p ∈ fs' ↔ p ∈ fs) →
        ∀ n, program files rereads i' n = program files rereads i n := by
  -- The criteria are those of the options; that these are what the flags ask for makes them a
  -- function of the flags.
  obtain ⟨fs, hfs, hasks⟩ := asks_of_parse hparse hlist
  have hasked := hasks.askedFor c
  refine ⟨fs, o.criteria c, fun gs => spellsList_iff hfs, ?_, ?_, ?_, hasks.json_iff, ?_, ?_⟩
  · intro k'
    constructor
    · exact hasked.unique
    · rintro rfl
      exact hasked
  · rintro b e rfl hmutates hopen
    refine ⟨⟨_, _, _, hmutates.leadsTo.settles_alone hopen⟩, ?_⟩
    intro f v p hsettles hf
    exact hmutates.view_and_panel hsettles hf
  · intro n
    obtain ⟨r, hprogram, hnone, hanswers⟩ := program_of_list hlist hconfig hpath hfile n
    refine ⟨r, _, hprogram, hnone, hanswers, rfl, fun hjson => ?_⟩
    rw [hjson]
    exact reports_listAnswer (fits_of_load hfile _)
  · -- A page size that is given is in the defaults as well, so that it narrows nothing.
    obtain ⟨-, -, hsize, -⟩ := o.criteria_spec c
    refine hasked.isFiltered_iff (hsize.trans ?_)
    exact (o.effectivePageSize_config c).symm
  · intro args' i' o' fs' hparse' hlist' hspells hsame n
    obtain ⟨gs, hgs, hasks'⟩ := asks_of_parse hparse' hlist'
    obtain rfl := (spellsList_iff hgs).mp hspells
    obtain ⟨hdata, hmutations, hpageSize, hjson⟩ := hasks'.agree hasks hsame
    exact program_congr hlist' hlist hdata hmutations hpageSize hjson n

/-- Somebody wants two tags and gives one of them twice, before and after a search. The document
reports both rows that have one of the tags, and so it does when the tags are given once, in the
other order. -/
theorem list_answers_repeated_tags :
    ∃ files rereads args args' i i' k, ∃ d : Snapshot, Invocation.parse args = .ok i ∧
      Invocation.parse args' = .ok i' ∧ args.count "--tag=b" = 2 ∧ args'.count "--tag=b" = 1 ∧
      d.entities.length = 3 ∧ (d.query k).data.map Row.name = ["bus", "plus"] ∧
      (∃ r text, program files rereads i 0 = some r ∧ r.failure = none ∧ r.answers = [text] ∧
        Json.decodeDocument? (Report.decode Row.decode) text =
          some ⟨k, true, 2, (d.query k).data, ⟨["b"], [], []⟩, none⟩) ∧
      program files rereads i' 0 = program files rereads i 0 := by
  let args := ["list", "--data", "f", "--tag=b", "-sUS", "--json", "--tag", "a", "--tag=b"]
  let args' := ["--data=f", "list", "--json", "--tag=a", "--tag=b", "--search", "US"]
  let fs : List Flag := [(.data, some "f"), (.facet .tags, some "b"), (.search, some "US"),
    (.json, none), (.facet .tags, some "a"), (.facet .tags, some "b")]
  let own : List Flag := [(.json, none), (.facet .tags, some "a"), (.facet .tags, some "b"),
    (.search, some "US")]
  let fs' : List Flag := own ++ [(.data, some "f")]
  let o := listOptions ⟨fs, none, false, [], false⟩
  let o' := listOptions ⟨own, none, false, [], false⟩
  let content :=
    "\x7b\"entities\": [\x7b\"name\": \"bus\", \"tags\": [\"a\"]\x7d, \x7b\"name\": \"us\"\x7d, "
    ++ "\x7b\"name\": \"plus\", \"tags\": [\"b\"]\x7d], \"tags\": [\x7b\"name\": \"b\"\x7d]\x7d"
  let row (name : String) (tags : List String) : Row := ⟨0, name, "", "", "", tags, [], [], []⟩
  let d : Snapshot := ⟨[row "bus" ["a"], row "us" [], row "plus" ["b"]], [⟨"b"⟩], [], [], [], by decide⟩
  let files : Files := ⟨[], fun _ => .ok content⟩
  let rereads : String → Nat → Except ReadFault String := fun _ _ => .error .notFound
  have hparse : Invocation.parse args = .ok ⟨false, some "f", .list o⟩ := rfl
  have hparse' : Invocation.parse args' = .ok ⟨false, some "f", .list o'⟩ := rfl
  let c : Config := { Config.unset with snapshotPath := some "f" }
  have hconfig : configure (some "f") files.layers = .ok (c, []) := rfl
  have hfile : Snapshot.load "f" (files.read "f") = .ok d := by decide +kernel
  have hflags : listFlags? args = some fs := rfl
  have hflags' : listFlags? args' = some fs' := rfl
  obtain ⟨gs, hgs, hasks⟩ := asks_of_parse hparse rfl
  obtain rfl := Option.some.inj (hflags.symm.trans hgs)
  obtain ⟨_, k, hspells, hasked, -, hprogram, -, -, hsame⟩ :=
    list_answers_flags hparse rfl hconfig rfl hfile
  obtain rfl := (hspells fs).mp ((spellsList_iff hflags).mpr rfl)
  obtain rfl := (hasked _).mp (hasks.askedFor _)
  obtain ⟨r, text, hrun, hnone, hanswers, -, hreports⟩ := hprogram 0
  have hread := (hreports rfl).rows (by decide +kernel)
  have hfiltered : (o.criteria c).isFiltered (o.config c).defaultCriteria = true := by
    decide +kernel
  have hcount : (d.query (o.criteria c)).count = 2 := by decide +kernel
  have hlists : Lists.atRest d c.effectiveLimit = ⟨["b"], [], []⟩ := by decide +kernel
  have hempty : (View.atRest d (o.config c).defaultCriteria (o.criteria c)).emptyState = none := by
    decide +kernel
  rw [hfiltered, hcount, hlists, hempty] at hread
  have hmembers : ∀ p, p ∈ fs' ↔ p ∈ fs := fun p =>
    ⟨(show ∀ p ∈ fs', p ∈ fs by decide) p, (show ∀ p ∈ fs, p ∈ fs' by decide) p⟩
  exact ⟨files, rereads, args, args', _, _, o.criteria c, d, hparse, hparse', by decide, by decide,
    rfl, by decide +kernel, ⟨r, text, hrun, hnone, hanswers, hread⟩,
    hsame args' _ o' fs' hparse' rfl ((spellsList_iff hflags').mpr rfl) hmembers 0⟩

end Lookout.Cli
