import Lookout.Backend
import Lookout.Config
import Lookout.Screen

/-! # The dashboard
A **dashboard** is a list screen whose calls are answered by a backend. `Dashboard.settle` lets
everything happen that happens on its own, until the screen has come to rest; calls run side by side,
so this takes as long as one call. -/

namespace Lookout

/-- A **dashboard**: a screen, the backend behind it, and the milliseconds since it was opened. -/
structure Dashboard where
  /-- The screen. -/
  screen : Screen
  /-- The backend. -/
  backend : Backend
  /-- The milliseconds since the screen was opened. -/
  elapsed : Nat
  deriving DecidableEq, Repr

namespace Dashboard

/-- Open a screen over a backend. -/
def activate (b : Backend) (c : Config) : Dashboard × List Event :=
  let (screen, es) := Screen.activate c.defaultCriteria c.effectiveLimit
  (⟨screen, b, 0⟩, es)

/-- Make a move of the screen, if it can be made. -/
def attempt (d : Dashboard) (m : Screen.Move) : Dashboard × List Event :=
  let (screen, es) := d.screen.attempt m
  ({ d with screen := screen }, es)

/-- Make several moves of the screen. -/
def attemptAll (d : Dashboard) (ms : List Screen.Move) : Dashboard × List Event :=
  let (screen, es) := d.screen.attemptAll ms
  ({ d with screen := screen }, es)

/-- Answer a query. -/
def answerQuery (d : Dashboard) (token : Nat) (c : Criteria) : Dashboard × List Event :=
  let page := d.backend.entities c
  let (d, es) := d.attempt (.respond token (.ok page))
  (d, Backend.served page :: es)

/-- Answer several queries. -/
def answerQueries (d : Dashboard) : List (Nat × Criteria) → Dashboard × List Event
  | [] => (d, [])
  | (token, c) :: qs =>
    let (d, es) := d.answerQuery token c
    let (d, fs) := d.answerQueries qs
    (d, es ++ fs)

/-- The answers to the requests for suggestions that are open. -/
def suggestionAnswers (d : Dashboard) : List Screen.Move :=
  d.screen.loader.requests.zipIdx.filterMap fun (r, index) =>
    if r.progress = .sent then some (.receive index (.ok (d.backend.suggestions r.kind))) else none

/-- Let everything happen that happens on its own. -/
def settle (d : Dashboard) : Dashboard × List Event :=
  let (screen, es) := d.screen.settle
  let d := { d with screen := screen }
  let queries := screen.listing.engine.inFlight
  let suggestions := d.suggestionAnswers
  let wait := if queries.isEmpty && suggestions.isEmpty then 0 else d.backend.latency
  let (d, fs) := { d with elapsed := d.elapsed + wait }.answerQueries queries
  let (d, gs) := d.attemptAll suggestions
  (d, es ++ fs ++ gs)

/-- What the list shows. -/
def view (d : Dashboard) : Listing.View := d.screen.listing.engine.published

/-- What the filter panel shows. -/
def panel (d : Dashboard) : Suggestions.Panel := d.screen.loader.panel

end Dashboard

end Lookout
