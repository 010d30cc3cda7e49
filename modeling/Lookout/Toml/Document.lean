import Lookout.Toml.Value

/-! # TOML documents
A document is a list of **statements**: headers, which open a table, and assignments of values to keys
in the table opened last. A **draft** is a table that is still being filled; each table in it remembers
its `Origin`, since that decides what may still be added. `Draft.ofStatements?` goes through the
statements and refuses the first one that says something again or differently. -/

namespace Lookout.Toml

/-- A **statement**. -/
inductive Statement
  /-- Open the table with this path. -/
  | header (path : List String)
  /-- Open a new table at the end of the array with this path. -/
  | element (path : List String)
  /-- Assign a value to a key. -/
  | assign (key : List String) (v : Value)

/-- How a table came about. -/
inductive Origin
  /-- It has a header of its own. -/
  | header
  /-- A header with a longer path goes through it. -/
  | implied
  /-- A key with dots goes through it. -/
  | dotted
  deriving DecidableEq

/-- An **item** of a draft. -/
inductive Item
  | value (v : Value)
  | table (origin : Origin) (members : List (String × Item))
  /-- An array of tables with headers of their own; only the last one can still be filled. -/
  | elements (before : List (List (String × Item))) (last : List (String × Item))

/-- A **draft**: a table that is still being filled. -/
abbrev Draft := List (String × Item)

namespace Draft

/-- Replace the item under a key. -/
def replace (k : String) (i : Item) (d : Draft) : Draft :=
  d.map fun (j, old) => if j = k then (j, i) else (j, old)

/-- Change the table with a path, which comes into being if it is not there. A value has no tables
in it, and of an array of tables the last one is meant. -/
def change? (f : Draft → Option Draft) : List String → Draft → Option Draft
  | [], d => f d
  | k :: path, d =>
    match d.lookup k with
    | none => (change? f path []).map fun t => d ++ [(k, .table .implied t)]
    | some (.value _) => none
    | some (.table o t) => (change? f path t).map fun t => replace k (.table o t) d
    | some (.elements before t) => (change? f path t).map fun t => replace k (.elements before t) d

/-- Open a table with a header of its own. -/
def openTable? (k : String) (d : Draft) : Option Draft :=
  match d.lookup k with
  | none => some (d ++ [(k, .table .header [])])
  | some (.table .implied t) => some (replace k (.table .header t) d)
  | some _ => none

/-- Open a table at the end of an array of tables. -/
def openElement? (k : String) (d : Draft) : Option Draft :=
  match d.lookup k with
  | none => some (d ++ [(k, .elements [] [])])
  | some (.elements before last) => some (replace k (.elements (before ++ [last]) []) d)
  | some _ => none

/-- Assign a value to a key. The tables a key with dots goes through may not have a header of their
own, and the table it leads to must have come about through such keys. -/
def assign? (v : Value) : List String → Draft → Option Draft
  | [], _ => none
  | [k], d => if (d.lookup k).isSome then none else some (d ++ [(k, .value v)])
  | k :: path, d =>
    match d.lookup k with
    | none => (assign? v path []).map fun t => d ++ [(k, .table .dotted t)]
    | some (.table .dotted t) => (assign? v path t).map fun t => replace k (.table .dotted t) d
    | some (.table .implied t) =>
      if path.length = 1 then none
      else (assign? v path t).map fun t => replace k (.table .implied t) d
    | some (.elements before t) =>
      if path.length = 1 then none
      else (assign? v path t).map fun t => replace k (.elements before t) d
    | some (.table .header _) | some (.value _) => none

/-- A draft and the path of the table opened last. -/
structure Progress where
  /-- The draft. -/
  draft : Draft
  /-- The path of the table opened last. -/
  path : List String

/-- Split a path into the path of the parent and the last key. -/
def splitLast? (path : List String) : Option (List String × String) :=
  path.getLast?.map fun k => (path.dropLast, k)

/-- Carry out a statement. -/
def Progress.step? (p : Progress) : Statement → Option Progress
  | .header path =>
    (splitLast? path).bind fun (parent, k) =>
      (change? (openTable? k) parent p.draft).map fun d => ⟨d, path⟩
  | .element path =>
    (splitLast? path).bind fun (parent, k) =>
      (change? (openElement? k) parent p.draft).map fun d => ⟨d, path⟩
  | .assign key v => (change? (assign? v key) p.path p.draft).map fun d => { p with draft := d }

/-- The draft that statements describe. -/
def ofStatements? (ss : List Statement) : Option Draft :=
  (ss.foldlM Progress.step? ⟨[], []⟩).map Progress.draft

end Draft

mutual

/-- The value an item stands for once nothing is added any more. -/
def Item.finish : Item → Value
  | .value v => v
  | .table _ members => .table (finishMembers members)
  | .elements before last => .array (finishTables before ++ [.table (finishMembers last)])

/-- The members of a table once nothing is added any more. -/
def finishMembers : List (String × Item) → Table
  | [] => []
  | (k, i) :: ms => (k, i.finish) :: finishMembers ms

/-- The elements of an array of tables once nothing is added any more. -/
def finishTables : List (List (String × Item)) → List Value
  | [] => []
  | t :: ts => .table (finishMembers t) :: finishTables ts

end

/-- The table that assignments within braces describe. -/
def inlineTable? (assignments : List (List String × Value)) : Option Table :=
  (assignments.foldlM (fun d (key, v) => Draft.assign? v key d) ([] : Draft)).map finishMembers

/-- The table that statements describe. -/
def tableOf? (ss : List Statement) : Option Table := (Draft.ofStatements? ss).map finishMembers

end Lookout.Toml
