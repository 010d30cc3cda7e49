import Lookout.Dashboard
import Lookout.Cli.Arguments
import Lookout.Cli.Output
import Lookout.Cli.Table
import Lookout.Json.Printer

/-! # The list command
`list` opens the list screen, does what the options say, waits until the screen has come to rest, and
shows it: as a table with the suggestions below it, or as one JSON document. The same value given
twice for a facet counts once. -/

namespace Lookout.Cli

open Json (Tree)
open Listing Suggestions

namespace ListOptions

/-- The mutations that select what was wanted in a facet. -/
def toggles (o : ListOptions) (f : Facet) : List Mutation :=
  (ValueSet.ofList (o.wanted f)).toList.map (.toggle f)

/-- What the options do to the criteria, in this order. -/
def mutations (o : ListOptions) : List Mutation :=
  (o.search.map Mutation.search).toList ++ Facet.all.flatMap o.toggles
    ++ (o.page.map Mutation.turnTo).toList

end ListOptions

/-- The quotient of two 64-bit numbers, rounded up. -/
def divCeil (a b : UInt64) : UInt64 := if a % b = 0 then a / b else a / b + 1

/-- The number of pages; an empty listing has one page. -/
def pageCount (v : View) : UInt64 := max 1 (divCeil v.totalCount v.criteria.pageSize.val.toUInt64)

/-- The number of the page that is shown, counted from one. -/
def pageNumber (v : View) : UInt64 := v.criteria.offset + 1

/-- The line above a table. -/
def header (v : View) : String :=
  "Entities (" ++ toString v.rows.length ++ " of " ++ toString v.totalCount.toNat ++ " total, page "
    ++ toString (pageNumber v).toNat ++ "/" ++ toString (pageCount v).toNat ++ "):"

/-- A view in lines: a table, or a message if there are no rows. -/
def viewLines (v : View) : List String :=
  match v.emptyState with
  | some e => [e.message]
  | none => header v :: table v.rows

/-- The suggestions in lines, one for each kind that has some text. -/
def suggestionLines (l : Lists) : List String :=
  [("Tags", l.tags), ("Labels", l.labels), ("Features", l.features)].filterMap fun (title, names) =>
    let text := String.intercalate ", " names
    if text.isEmpty then none else some (title ++ ": " ++ text)

/-- A view and the suggestions as one document. -/
def document (v : View) (l : Lists) : Tree := .record [
  ("criteria", v.criteria.toTree),
  ("is_filtered", .bool v.isFiltered),
  ("total_count", .nat v.totalCount.toNat),
  ("rows", .list Row.toTree v.rows),
  ("facets", l.toTree),
  ("empty_state", .optional (fun e => .text e.message) v.emptyState)]

/-- The answer of the command, each line with its end. -/
def listAnswer (json : Bool) (v : View) (l : Lists) : String :=
  let lines := if json then [(document v l).pretty] else viewLines v ++ suggestionLines l
  String.join (lines.map (· ++ "\n"))

/-- What the command gives out about a screen that has come to rest. -/
def showList (json : Bool) (v : View) (l : Lists) : Result :=
  match v.lastError with
  | some message =>
    .failed [.notice ("Failed to list entities: " ++ message), .event (.listFailed message),
      .event (.appFailed message "")] message
  | none =>
    .success [.answer (listAnswer json v l),
      .event (.listCompleted v.rows.length v.totalCount v.isFiltered)]

/-- The screen that the options lead to, at rest, and what is reported on the way, up to the end of
the screen. -/
def runScreen (c : Config) (b : Backend) (o : ListOptions) : Dashboard × List Event :=
  let (d, es) := Dashboard.activate b c
  let (d, fs) := d.attemptAll (o.mutations.map .mutate)
  let (d, gs) := d.settle
  let (_, hs) := d.attempt .deactivate
  (d, es ++ fs ++ gs ++ hs)

/-- The command `list` over a backend. -/
def runList (c : Config) (b : Backend) (o : ListOptions) : Result :=
  let (d, es) := runScreen c b o
  (showList o.json d.view d.panel.lists).after (Output.events es)

end Lookout.Cli
