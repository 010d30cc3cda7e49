import Lookout.Polling.Fleet
import Lookout.Main
import Lookout.Proofs.Listing.Freshness
import Lookout.Proofs.Listing.Coalescing
import Lookout.Proofs.Polling.Exclusion
import Lookout.Proofs.Dashboard.Refinement
import Lookout.Proofs.Suggestions.Activations
import Lookout.Proofs.Dashboard.EmptyStates
import Lookout.Proofs.Cli.Answer
import Lookout.Proofs.Cli.Spelling
import Lookout.Proofs.Cli.Options
import Lookout.Proofs.Dashboard.Rest
import Lookout.Proofs.Listing.Rest
import Lookout.Proofs.Suggestions.Rest
import Lookout.Proofs.Cli.Watching
import Lookout.Proofs.Polling.Outcomes
import Lookout.Proofs.Polling.Suppression
import Lookout.Proofs.Screen.Waits
import Lookout.Proofs.Screen.Parts
import Lookout.Proofs.Suggestions.Slots
import Lookout.Proofs.Screen.Separation
import Lookout.Proofs.Suggestions.Retirement
import Lookout.Proofs.Polling.Retirement
import Lookout.Proofs.Retirement
import Lookout.Proofs.Store
import Lookout.Proofs.Cli.Overrides
import Lookout.Backend.Session
import Lookout.Proofs.Backend
import Lookout.Proofs.Snapshot.Pages
import Lookout.Proofs.Snapshot.Facets
import Lookout.Proofs.Polling.Cadence
import Lookout.Proofs.Wire
import Lookout.Proofs.Snapshot.Search
import Lookout.Proofs.Listing.Calls
import Lookout.Proofs.Polling.Calls
import Lookout.Proofs.Listing.Log
import Lookout.Proofs.Cli.RunLog
import Lookout.Proofs.Cli.Header
import Lookout.Proofs.Json.Respelling
import Lookout.Proofs.Snapshot.Respelling
import Lookout.Proofs.Cli.Table
import Lookout.Proofs.Cli.Document
