import Lookout.Cli.Table

/-! # Tables keep to their columns
The frame of a table is drawn from the widths alone, its rows from texts of any length. This file
shows that **all lines of a table are equally long and have their bars at the same places**, for
every text is cut or padded to exactly the width of its column. Any width does that is not too
narrow for the three dots of a cut text, and the columns of a table are wider.

* `IsCutTo`: what should become of a text that is cut or padded to a width.
* `truncate?_spec`: when this is what `truncate?` gives, and what it gives otherwise.
* `ruled`: a line of columns, with its bars at `barsFrom`; `cellsAt` reads the cells back.
* `IsRuled`: the lines of a table, border or not.
* `table_aligned`: the whole statement about tables. -/

namespace Lookout.Cli

/-! ## Texts of a width -/

section Fit

variable {width : Nat} {cs : List Char}

/-- A text that is not too long is followed by blanks. -/
theorem fit_of_le (h : cs.length ≤ width) : fit width cs = padTo width cs := if_pos h

/-- A text that is too long ends in dots, and no blanks follow them. -/
theorem fit_of_lt (h : width < cs.length) :
    fit width cs = cs.take (width - 3) ++ ['.', '.', '.'] := by
  rw [fit, if_neg (Nat.not_le.mpr h)]
  apply padTo_of_le
  -- There is nothing to pad in a narrow width either: the dots alone are too long for it.
  simp only [List.length_append, List.length_take, List.length_cons, List.length_nil]
  omega

/-- A text gets its width exactly, unless it is too long and there is no place for the dots. -/
theorem length_fit_iff : (fit width cs).length = width ↔ cs.length ≤ width ∨ 3 ≤ width := by
  by_cases hshort : cs.length ≤ width
  · rw [fit_of_le hshort, length_padTo hshort]
    simp [hshort]
  · rw [fit_of_lt (Nat.not_le.mp hshort)]
    simp only [List.length_append, List.length_take, List.length_cons, List.length_nil]
    omega

end Fit

/-- A text `t` is `s` **cut to** a width if it has so many characters, and is `s` followed by blanks
or, where `s` is too long for that, agrees with it in all characters but the last three. -/
structure IsCutTo (width : Nat) (s t : String) : Prop where
  /-- It has the width. -/
  length_eq : t.length = width
  /-- A text that is not too long is kept, and blanks follow. -/
  padded : s.length ≤ width → ∃ n, t = s ++ String.ofList (List.replicate n ' ')
  /-- Of a text that is too long the beginning is kept. -/
  begins : width < s.length → s.toList.take (width - 3) <+: t.toList

section Truncate

variable {width : Nat} {s : String}

/-- Up to the limit there is a text of every width. -/
theorem truncate?_of_le (h : width ≤ widthLimit) : truncate? width s = some (truncate width s) :=
  if_pos h

/-- It is cut to the width if there is a place for the dots, or no need of one. -/
theorem isCutTo_truncate_iff :
    IsCutTo width s (truncate width s) ↔ s.length ≤ width ∨ 3 ≤ width := by
  have hlength : (truncate width s).length = (fit width s.toList).length := String.length_ofList
  constructor
  · intro h
    rw [← String.length_toList, ← length_fit_iff, ← hlength]
    exact h.length_eq
  · intro h
    refine ⟨?_, ?_, ?_⟩
    · rw [hlength, length_fit_iff, String.length_toList]
      exact h
    · intro hshort
      rw [← String.length_toList] at hshort
      refine ⟨width - s.toList.length, ?_⟩
      rw [truncate, fit_of_le hshort, padTo, String.ofList_append, String.ofList_toList]
    · intro hlong
      rw [← String.length_toList] at hlong
      rw [truncate, String.toList_ofList, fit_of_lt hlong]
      exact List.prefix_append _ _

end Truncate

/-- **A text is cut or padded to exactly a width just if the width has a place for the dots or the
text needs none.** Of a text that is too long the beginning is kept as far as it has a place before
the dots, and the dots come in any case: where the width is less than three, they are all there is,
and too long. Beyond the limit there is no text. -/
theorem truncate?_spec (width : Nat) (s : String) :
    ((∃ t, truncate? width s = some t ∧ IsCutTo width s t) ↔
        width ≤ widthLimit ∧ (s.length ≤ width ∨ 3 ≤ width)) ∧
      (width ≤ widthLimit → width < s.length →
        truncate? width s = some (String.ofList (s.toList.take (width - 3)) ++ "...")) ∧
      (truncate? width s = none ↔ widthLimit < width) := by
  refine ⟨?_, ?_, ?_⟩
  · by_cases hlimit : width ≤ widthLimit
    · rw [truncate?_of_le hlimit, ← isCutTo_truncate_iff]
      simp [hlimit]
    · simp [truncate?, hlimit]
  · intro hlimit hlong
    rw [← String.length_toList] at hlong
    rw [truncate?_of_le hlimit, truncate, fit_of_lt hlong, String.ofList_append]
  · rw [← Nat.not_le, truncate?]
    simp

/-- A width of five leaves two of seven letters, however many bytes they take; a width of two leaves
none of them, and is too narrow for the dots. -/
theorem truncate?_of_accents :
    (∃ t, truncate? 5 "ééééééé" = some t ∧ IsCutTo 5 "ééééééé" t) ∧
      truncate? 5 "ééééééé" = some "éé..." ∧ truncate? 2 "ééééééé" = some "..." := by
  obtain ⟨hexact, hlong, -⟩ := truncate?_spec 5 "ééééééé"
  obtain ⟨-, hnarrow, -⟩ := truncate?_spec 2 "ééééééé"
  exact ⟨hexact.mpr ⟨by decide, .inr (by decide)⟩, hlong (by decide) (by decide),
    hnarrow (by decide) (by decide)⟩

/-- Where there is no place at all, there are still three dots. -/
theorem truncate?_of_no_place :
    truncate? 0 "a" = some "..." ∧ ¬∃ t, truncate? 0 "a" = some t ∧ IsCutTo 0 "a" t := by
  have hdots : truncate? 0 "a" = some "..." := by decide
  refine ⟨hdots, ?_⟩
  rintro ⟨t, ht, hcut⟩
  obtain rfl : "..." = t := Option.some.inj (hdots.symm.trans ht)
  exact absurd hcut.length_eq (by decide)

/-! ## Several texts -/

/-- Texts cut or padded to some widths. -/
def fitted (ns : List Nat) (texts : List String) : List (List Char) :=
  List.zipWith (fun n s => fit n s.toList) ns texts

/-- If there is a place for the dots everywhere, every text gets its width. -/
theorem map_length_fitted {ns : List Nat} {texts : List String} (hn : ∀ n ∈ ns, 3 ≤ n)
    (hl : texts.length = ns.length) : (fitted ns texts).map List.length = ns := by
  induction ns generalizing texts with
  | nil => rfl
  | cons n ns ih =>
      obtain _ | ⟨s, texts⟩ := texts
      · cases hl
      · have hfirst : (fit n s.toList).length = n :=
          length_fit_iff.mpr (.inr (hn n List.mem_cons_self))
        have hrest := ih (fun k hk => hn k (List.mem_cons_of_mem n hk)) (Nat.succ.inj hl)
        rw [fitted, List.zipWith_cons_cons, List.map_cons, hfirst]
        exact congrArg (n :: ·) hrest

/-- Up to the limit there are texts of all widths. -/
theorem zipWith_truncate? {ns : List Nat} (hn : ∀ n ∈ ns, n ≤ widthLimit) (texts : List String) :
    List.zipWith truncate? ns texts = (List.zipWith truncate ns texts).map some := by
  induction ns generalizing texts with
  | nil => rfl
  | cons n ns ih =>
      obtain _ | ⟨s, texts⟩ := texts
      · rfl
      · have hrest := ih (fun k hk => hn k (List.mem_cons_of_mem n hk)) texts
        rw [List.zipWith_cons_cons, List.zipWith_cons_cons, List.map_cons, hrest,
          truncate?_of_le (hn n List.mem_cons_self)]

/-! ## Lines of columns -/

/-- A line of columns: a bar, and then every column with the bar that closes it. -/
def ruled (bar : Char) : List (List Char × Char) → List Char
  | [] => [bar]
  | (column, next) :: rest => bar :: column ++ ruled next rest

/-- Where the bars stand, counted from a place, between columns of some widths. A column has a blank
on either side of it. -/
def barsFrom (p : Nat) : List Nat → List Nat
  | [] => [p]
  | n :: ns => p :: barsFrom (p + n + 3) ns

/-- How long a line is that has columns of some widths. -/
def lineLength : List Nat → Nat
  | [] => 1
  | n :: ns => n + 3 + lineLength ns

/-- The cells that stand in a line, in columns of some widths. -/
def cellsAt : List Nat → List Char → List (List Char)
  | [], _ => []
  | n :: ns, cs => (cs.drop 2).take n :: cellsAt ns (cs.drop (n + 3))

/-- Columns **have** some widths if each of them takes its width and two places more. -/
def HaveWidths (columns : List (List Char × Char)) (ns : List Nat) : Prop :=
  columns.map (fun column => column.1.length) = ns.map (· + 2)

namespace HaveWidths

variable {bar : Char} {columns : List (List Char × Char)} {ns : List Nat}

/-- No widths, no columns. -/
theorem eq_nil (h : HaveWidths columns []) : columns = [] := List.map_eq_nil_iff.mp h

/-- The first column has the first width, and the others have the others. -/
theorem exists_cons {n : Nat} (h : HaveWidths columns (n :: ns)) :
    ∃ column next rest, columns = (column, next) :: rest ∧ column.length = n + 2 ∧
      HaveWidths rest ns := by
  obtain _ | ⟨⟨column, next⟩, rest⟩ := columns
  · cases h
  · obtain ⟨hcolumn, hrest⟩ := List.cons.inj h
    exact ⟨column, next, rest, rfl, hcolumn, hrest⟩

/-- A line is as long as its columns and bars. -/
theorem length_ruled (h : HaveWidths columns ns) : (ruled bar columns).length = lineLength ns := by
  induction ns generalizing bar columns with
  | nil =>
      obtain rfl := h.eq_nil
      rfl
  | cons n ns ih =>
      obtain ⟨column, next, rest, rfl, hcolumn, hrest⟩ := h.exists_cons
      rw [ruled, lineLength, List.length_append, List.length_cons, hcolumn, ih hrest]

/-- At every place where a bar should stand there is one. -/
theorem getElem?_ruled (h : HaveWidths columns ns) (before : List Char) :
    ∀ p ∈ barsFrom before.length ns,
      ∃ c ∈ bar :: columns.map Prod.snd, (before ++ ruled bar columns)[p]? = some c := by
  induction ns generalizing bar columns before with
  | nil =>
      obtain rfl := h.eq_nil
      intro p hp
      obtain rfl := List.mem_singleton.mp hp
      exact ⟨bar, List.mem_cons_self, List.getElem?_concat_length⟩
  | cons n ns ih =>
      obtain ⟨column, next, rest, rfl, hcolumn, hrest⟩ := h.exists_cons
      intro p hp
      rcases List.mem_cons.mp hp with rfl | hp
      · refine ⟨bar, List.mem_cons_self, ?_⟩
        simp [ruled]
      · -- The other bars stand in the line that goes on behind this column, with the next bar.
        have hplace : before.length + n + 3 = (before ++ bar :: column).length := by
          rw [List.length_append, List.length_cons, hcolumn]
          omega
        rw [hplace] at hp
        obtain ⟨c, hc, hget⟩ := ih hrest (before ++ bar :: column) p hp
        refine ⟨c, List.mem_cons_of_mem bar hc, ?_⟩
        rw [← hget, ruled, List.append_assoc]

end HaveWidths

/-- A cell with a blank on either side. -/
def spaced (cell : List Char) : List Char := ' ' :: cell ++ [' ']

/-- The cells of a line are read back from their columns. -/
theorem cellsAt_ruled {bar : Char} {columns : List (List Char × Char)} {texts : List (List Char)}
    {ns : List Nat} (hn : texts.map List.length = ns)
    (h : columns.map Prod.fst = texts.map spaced) : cellsAt ns (ruled bar columns) = texts := by
  subst hn
  induction texts generalizing bar columns with
  | nil => rfl
  | cons text texts ih =>
      obtain _ | ⟨⟨column, next⟩, rest⟩ := columns
      · cases h
      · obtain ⟨rfl, hrest⟩ := List.cons.inj h
        have hcell : (ruled bar ((spaced text, next) :: rest)).drop 2 =
            text ++ ' ' :: ruled next rest := by
          simp [ruled, spaced]
        have hbehind : (ruled bar ((spaced text, next) :: rest)).drop (text.length + 3) =
            ruled next rest := by
          rw [ruled]
          apply List.drop_left'
          simp [spaced]
        rw [List.map_cons, cellsAt, hcell, hbehind, List.take_left, ih hrest]

/-! ## The lines of a table -/

/-- The characters that bars are made of. -/
def frameMarks : List Char := ['│', '┌', '┬', '┐', '├', '┼', '┤', '└', '┴', '┘']

/-- A line **is ruled** for some widths if it has a column for each of them, between bars. -/
def IsRuled (w : Widths) (l : String) : Prop :=
  ∃ bar columns, l.toList = ruled bar columns ∧ HaveWidths columns w.toList ∧
    ∀ c ∈ bar :: columns.map Prod.snd, c ∈ frameMarks

/-- A line is ruled if it is made from segments of the right lengths and bars. -/
theorem IsRuled.of_zip {w : Widths} {l : String} {bar : Char} {segments : List (List Char)}
    {bars : List Char} (h : l.toList = ruled bar (segments.zip bars))
    (hl : segments.length = bars.length) (hw : segments.map List.length = w.toList.map (· + 2))
    (hb : ∀ c ∈ bar :: bars, c ∈ frameMarks) : IsRuled w l := by
  refine ⟨bar, _, h, ?_, ?_⟩
  · have hfirst : (segments.zip bars).map Prod.fst = segments := List.map_fst_zip (Nat.le_of_eq hl)
    calc (segments.zip bars).map (fun column => column.1.length)
        = ((segments.zip bars).map Prod.fst).map List.length := List.map_map.symm
      _ = w.toList.map (· + 2) := by rw [hfirst, hw]
  · rw [List.map_snd_zip (Nat.le_of_eq hl.symm)]
    exact hb

/-- A number that is moved into a range is in this range. -/
theorem clamp_mem {low high : Nat} (n : Nat) (h : low ≤ high) :
    low ≤ clamp low high n ∧ clamp low high n ≤ high := by
  unfold clamp
  omega

namespace Widths

/-- The sum of the widths. -/
def total (w : Widths) : Nat := w.name + w.type + w.status + w.ready + w.tags + w.description

/-- The places of the bars. -/
def bars (w : Widths) : List Nat := barsFrom 0 w.toList

/-- The cells that stand in a line. -/
def read (w : Widths) (l : String) : List String := (cellsAt w.toList l.toList).map String.ofList

/-- Six columns have seven bars, and twelve blanks beside them. -/
theorem lineLength_eq (w : Widths) : lineLength w.toList = w.total + 19 := by
  simp only [toList, lineLength, total]
  omega

/-- A border, column by column. -/
theorem toList_border (w : Widths) (left middle right : Char) :
    (w.border left middle right).toList =
      ruled left ((w.toList.map fun n => List.replicate (n + 2) '─').zip
        [middle, middle, middle, middle, middle, right]) := by
  simp [border, ruled, toList]

/-- A line with six cells, column by column. -/
theorem toList_line (w : Widths) (a b c d e f : String) :
    (w.line [a, b, c, d, e, f]).toList =
      ruled '│' (((fitted w.toList [a, b, c, d, e, f]).map spaced).zip (List.replicate 6 '│')) := by
  simp [line, ruled, fitted, toList, spaced, truncate]

/-- Borders are ruled, whatever the widths. -/
theorem isRuled_border (w : Widths) {left middle right : Char} (hl : left ∈ frameMarks)
    (hm : middle ∈ frameMarks) (hr : right ∈ frameMarks) :
    IsRuled w (w.border left middle right) := by
  refine .of_zip (w.toList_border left middle right) rfl ?_ ?_
  · simp
  · simp [hl, hm, hr]

/-- Lines of cells are ruled if every width has a place for the dots. -/
theorem isRuled_line {w : Widths} (hw : ∀ n ∈ w.toList, 3 ≤ n) (a b c d e f : String) :
    IsRuled w (w.line [a, b, c, d, e, f]) := by
  refine .of_zip (w.toList_line a b c d e f) rfl ?_ (by simp [frameMarks])
  calc ((fitted w.toList [a, b, c, d, e, f]).map spaced).map List.length
      = ((fitted w.toList [a, b, c, d, e, f]).map List.length).map (· + 2) := by
        simp [spaced, Function.comp_def]
    _ = w.toList.map (· + 2) := by rw [map_length_fitted hw rfl]

/-- The cells of a line are those that were put there, cut or padded to the widths. -/
theorem read_line {w : Widths} (hw : ∀ n ∈ w.toList, 3 ≤ n) (a b c d e f : String) :
    w.read (w.line [a, b, c, d, e, f]) = List.zipWith truncate w.toList [a, b, c, d, e, f] := by
  have hcells : cellsAt w.toList (w.line [a, b, c, d, e, f]).toList =
      fitted w.toList [a, b, c, d, e, f] := by
    rw [toList_line]
    exact cellsAt_ruled (map_length_fitted hw rfl) (List.map_fst_zip (Nat.le_refl 6))
  rw [read, hcells, fitted, List.map_zipWith]
  rfl

/-- The widths of a table have a place for the dots, and are far from the limit. -/
theorem mem_toList_ofRows {rows : List Row} {n : Nat} (h : n ∈ (ofRows rows).toList) :
    4 ≤ n ∧ n ≤ 40 := by
  have hname := clamp_mem (longest 16 (rows.map Row.name)) (by decide : 4 ≤ 40)
  have htype := clamp_mem (longest 4 (rows.map Row.type)) (by decide : 4 ≤ 20)
  simp only [ofRows, toList, List.mem_cons, List.not_mem_nil, or_false] at h
  omega

end Widths

namespace IsRuled

variable {w : Widths} {l : String}

/-- All lines that are ruled for the same widths are equally long. -/
theorem length_eq (h : IsRuled w l) : l.length = w.total + 19 := by
  obtain ⟨bar, columns, hl, hcolumns, -⟩ := h
  rw [← String.length_toList, hl, hcolumns.length_ruled, w.lineLength_eq]

/-- They have bars at the same places. -/
theorem exists_bar (h : IsRuled w l) : ∀ p ∈ w.bars, ∃ c ∈ frameMarks, l.toList[p]? = some c := by
  obtain ⟨bar, columns, hl, hcolumns, hmarks⟩ := h
  intro p hp
  obtain ⟨c, hc, hget⟩ := hcolumns.getElem?_ruled [] p hp
  rw [List.nil_append, ← hl] at hget
  exact ⟨c, hmarks c hc, hget⟩

end IsRuled

/-- Every line of a table is ruled, be it a border or a line of cells. -/
theorem isRuled_of_mem_table {rows : List Row} {l : String} (h : l ∈ table rows) :
    IsRuled (Widths.ofRows rows) l := by
  have hw : ∀ n ∈ (Widths.ofRows rows).toList, 3 ≤ n :=
    fun n hn => Nat.le_of_succ_le (Widths.mem_toList_ofRows hn).1
  simp only [table, List.cons_append, List.mem_cons, List.mem_append, List.mem_map,
    List.not_mem_nil, or_false] at h
  rcases h with rfl | rfl | rfl | ⟨r, -, rfl⟩ | rfl
  · exact Widths.isRuled_border _ (by decide) (by decide) (by decide)
  · exact Widths.isRuled_line hw _ _ _ _ _ _
  · exact Widths.isRuled_border _ (by decide) (by decide) (by decide)
  · exact Widths.isRuled_line hw _ _ _ _ _ _
  · exact Widths.isRuled_border _ (by decide) (by decide) (by decide)

/-- The lines of the rows stand in their order below three other lines. -/
theorem getElem?_table {rows : List Row} {i : Nat} {r : Row} (h : rows[i]? = some r) :
    (table rows)[i + 3]? = some ((Widths.ofRows rows).line (cells r)) := by
  obtain ⟨hi, -⟩ := List.getElem?_eq_some_iff.mp h
  -- Below them there is one more line, behind all that are asked for here.
  simp only [table, List.cons_append, List.getElem?_cons_succ]
  rw [List.getElem?_append_left (by simpa using hi), List.getElem?_map, h]
  rfl

/-- **Tables are aligned, whatever their rows.** A table has a line for each row and four more. All
its lines, borders, headings and rows, have as many characters as the sum of the six widths and
nineteen, and the same seven places hold a bar in all of them. Between the bars of a row's line are
its cells, each cut or padded to the width of its column, for which there is always such a text. -/
theorem table_aligned (rows : List Row) :
    (table rows).length = rows.length + 4 ∧
      (∀ l ∈ table rows, l.length = (Widths.ofRows rows).total + 19) ∧
      (∀ l ∈ table rows, ∀ p ∈ (Widths.ofRows rows).bars,
        ∃ c ∈ frameMarks, l.toList[p]? = some c) ∧
      ∀ (i : Nat) (r : Row), rows[i]? = some r → ∃ l, (table rows)[i + 3]? = some l ∧
        List.zipWith truncate? (Widths.ofRows rows).toList (cells r) =
          ((Widths.ofRows rows).read l).map some := by
  refine ⟨?_, ?_, ?_, ?_⟩
  · simp [table]
  · exact fun l hl => (isRuled_of_mem_table hl).length_eq
  · exact fun l hl => (isRuled_of_mem_table hl).exists_bar
  · intro i r hr
    refine ⟨_, getElem?_table hr, ?_⟩
    have hbounds : ∀ n ∈ (Widths.ofRows rows).toList, 4 ≤ n ∧ n ≤ 40 :=
      fun n hn => Widths.mem_toList_ofRows hn
    have hread : (Widths.ofRows rows).read ((Widths.ofRows rows).line (cells r)) =
        List.zipWith truncate (Widths.ofRows rows).toList (cells r) :=
      Widths.read_line (fun n hn => Nat.le_of_succ_le (hbounds n hn).1) _ _ _ _ _ _
    rw [hread]
    apply zipWith_truncate?
    exact fun n hn => Nat.le_trans (hbounds n hn).2 (by decide)

/-- A name of 41 letters, one too many: the table has five lines of 139 characters, there is a bar
behind the name that had to be cut, and the tags are in their column. -/
theorem table_of_long_name :
    ∃ (r : Row) (l : String), r.name.length = 41 ∧ (table [r]).length = 5 ∧ l ∈ table [r] ∧
      l.length = 139 ∧ (∃ c ∈ frameMarks, l.toList[43]? = some c) ∧
      ((Widths.ofRows [r]).read l)[4]? = some "prod, pii               " := by
  let r : Row := ⟨1, String.ofList (List.replicate 41 'é'), "Entity", "", "READY", ["prod", "pii"],
    [], [], []⟩
  obtain ⟨hcount, hlength, hbars, hcells⟩ := table_aligned [r]
  obtain ⟨l, hl, hread⟩ := hcells 0 r rfl
  have hmem : l ∈ table [r] := List.mem_of_getElem? hl
  refine ⟨r, l, by decide, hcount, hmem, (hlength l hmem).trans (by decide),
    hbars l hmem 43 (by decide), ?_⟩
  have hcut : (List.zipWith truncate? (Widths.ofRows [r]).toList (cells r))[4]? =
      some (some "prod, pii               ") := by decide
  rw [hread, List.getElem?_map] at hcut
  simpa using hcut

end Lookout.Cli
