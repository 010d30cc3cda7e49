import Lookout.Platform

/-! # Tables
Rows of the listing as a table with a frame. Every column has a width, counted in characters; a cell
that is too long is cut and ends in three dots, a shorter one is padded, and so all lines of a table
are equally long. -/

namespace Lookout.Cli

/-- A text followed by blanks up to a width. -/
def padTo (width : Nat) (cs : List Char) : List Char :=
  cs ++ List.replicate (width - cs.length) ' '

/-- A text that is long enough stays as it is. -/
theorem padTo_of_le {width : Nat} {cs : List Char} (h : width ≤ cs.length) :
    padTo width cs = cs := by
  rw [padTo, Nat.sub_eq_zero_of_le h, List.replicate_zero, List.append_nil]

/-- Any other gets the width. -/
theorem length_padTo {width : Nat} {cs : List Char} (h : cs.length ≤ width) :
    (padTo width cs).length = width := by
  simp [padTo]; omega

/-- A text cut or padded to a width. -/
def fit (width : Nat) (cs : List Char) : List Char :=
  if cs.length ≤ width then padTo width cs
  else padTo width (cs.take (width - 3) ++ ['.', '.', '.'])

/-- A text cut or padded to a width. -/
def truncate (width : Nat) (s : String) : String := String.ofList (fit width s.toList)

/-- The greatest width that a text can be cut or padded to: a width has 16 bits. -/
def widthLimit : Nat := 65535

/-- A text cut or padded to any width that is asked for; beyond the limit there is no such text. -/
def truncate? (width : Nat) (s : String) : Option String :=
  if width ≤ widthLimit then some (truncate width s) else none

/-- The **widths** of the columns of a table. -/
structure Widths where
  /-- The column of names. -/
  name : Nat
  /-- The column of types. -/
  type : Nat
  /-- The column of statuses. -/
  status : Nat
  /-- The column that says whether an entity is ready. -/
  ready : Nat
  /-- The column of tags. -/
  tags : Nat
  /-- The column of descriptions. -/
  description : Nat
  deriving DecidableEq, Repr

/-- A number moved into a range. -/
def clamp (low high n : Nat) : Nat := max low (min n high)

/-- The longest of several texts, or a number if there are none. -/
def longest (default : Nat) : List String → Nat
  | [] => default
  | s :: ss => ss.foldl (fun n t => max n t.length) s.length

namespace Widths

/-- The widths for some rows: names and types get what they need, within limits. -/
def ofRows (rows : List Row) : Widths :=
  ⟨clamp 4 40 (longest 16 (rows.map Row.name)), clamp 4 20 (longest 4 (rows.map Row.type)),
    9, 5, 24, 36⟩

/-- The widths from left to right. -/
def toList (w : Widths) : List Nat := [w.name, w.type, w.status, w.ready, w.tags, w.description]

/-- A horizontal line of the frame. -/
def border (w : Widths) (left middle right : Char) : String :=
  let segments := w.toList.map fun n => String.ofList (List.replicate (n + 2) '─')
  left.toString ++ String.intercalate middle.toString segments ++ right.toString

/-- A line with one cell in each column. -/
def line (w : Widths) (cells : List String) : String :=
  let body := (cells.zip w.toList).map fun (cell, n) => truncate n cell
  "│ " ++ String.intercalate " │ " body ++ " │"

end Widths

/-- The headings of the columns. -/
def headings : List String := ["Name", "Type", "Status", "Ready", "Tags", "Description"]

/-- The cells of a row. -/
def cells (r : Row) : List String :=
  [r.name, r.type, r.status, if r.isReady then "yes" else "no", String.intercalate ", " r.tags,
    r.description]

/-- The lines of the table of some rows. -/
def table (rows : List Row) : List String :=
  let w := Widths.ofRows rows
  w.border '┌' '┬' '┐' :: w.line headings :: w.border '├' '┼' '┤'
    :: rows.map (fun r => w.line (cells r)) ++ [w.border '└' '┴' '┘']

end Lookout.Cli
