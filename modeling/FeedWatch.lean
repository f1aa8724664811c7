import FeedWatch.Log.Loggers
import FeedWatch.Main
import FeedWatch.Proofs.Query.Meaning
import FeedWatch.Proofs.Json.RoundTrip
import FeedWatch.Proofs.Json.Utf8
import FeedWatch.Proofs.Json.Bytes
import FeedWatch.Proofs.Json.Access
import FeedWatch.Proofs.Disk.Lookup
import FeedWatch.Proofs.Disk.Paths
import FeedWatch.Proofs.Disk.Folders
import FeedWatch.Proofs.Disk.Replace
import FeedWatch.Proofs.Disk.Trees
import FeedWatch.Proofs.Document
import FeedWatch.Proofs.Store.RoundTrip
import FeedWatch.Proofs.Store.Whole
import FeedWatch.Proofs.Registry.Change
import FeedWatch.Proofs.Registry.Sync
import FeedWatch.Proofs.Registry.Reload
import FeedWatch.Proofs.Command.Edits
import FeedWatch.Proofs.Text.Template
import FeedWatch.Proofs.Pipeline.Dispatch
import FeedWatch.Proofs.Engine.Queue
import FeedWatch.Proofs.Engine.Runs
import FeedWatch.Proofs.Listener.Outline
import FeedWatch.Proofs.Listener.Moves
import FeedWatch.Proofs.Listener.View
import FeedWatch.Proofs.Listener.Tasks
import FeedWatch.Proofs.Listener.Stops
import FeedWatch.Proofs.Listener.Turns
import FeedWatch.Proofs.Listener.Safety
import FeedWatch.Proofs.Listener.Frames
import FeedWatch.Proofs.Json.LongNumerals
import FeedWatch.Proofs.Event.Unbounded
import FeedWatch.Proofs.Event.Payloads
import FeedWatch.Proofs.Pipeline.Conservation
import FeedWatch.Proofs.Pipeline.Rejection
import FeedWatch.Proofs.Registry.Failure
import FeedWatch.Proofs.Engine.Timers
import FeedWatch.Proofs.Listener.Aside
import FeedWatch.Proofs.Listener.Beats
import FeedWatch.Proofs.Listener.Heartbeats
import FeedWatch.Proofs.Watcher.Agreement
import FeedWatch.Proofs.Listener.Lasting
import FeedWatch.Proofs.Engine.HeapOrder
import FeedWatch.Proofs.Engine.Punctual
import FeedWatch.Proofs.Engine.Touches
import FeedWatch.Proofs.Listener.Reconnects
import FeedWatch.Proofs.Listener.Crew
import FeedWatch.Proofs.Watcher.Focus
import FeedWatch.Proofs.Disk.Stopped
import FeedWatch.Proofs.Registry.Shared
import FeedWatch.Proofs.Registry.Unindexed
import FeedWatch.Proofs.Registry.Refusal
import FeedWatch.Proofs.Registry.Unusable
import FeedWatch.Proofs.Watcher.Flights
import FeedWatch.Proofs.Watcher.Posts
import FeedWatch.Proofs.Json.Numbers
import FeedWatch.Proofs.Json.Reals
import FeedWatch.Proofs.Json.Fit
import FeedWatch.Proofs.Store.Reread
import FeedWatch.Proofs.Text.Lower
import FeedWatch.Proofs.Text.SectionCodes
import FeedWatch.Proofs.Command.Checks
import FeedWatch.Proofs.Listener.Dismissal
import FeedWatch.Proofs.Watcher.Watch
import FeedWatch.Proofs.Delivery.Attempts
import FeedWatch.Proofs.Delivery.Results
import FeedWatch.Proofs.Number.Range
import FeedWatch.Proofs.Command.Addressing
import FeedWatch.Proofs.Reference.Index
import FeedWatch.Proofs.Reference.Exact
import FeedWatch.Proofs.Names
import FeedWatch.Proofs.Query.Classes
import FeedWatch.Proofs.Query.LongNumbers
import FeedWatch.Proofs.Query.Composition
import FeedWatch.Proofs.Pipeline.Labels
import FeedWatch.Proofs.Pipeline.Tallies
import FeedWatch.Proofs.Watcher.Tallies
import FeedWatch.Proofs.Watcher.Clients
import FeedWatch.Proofs.Watcher.Idle
import FeedWatch.Proofs.Watcher.Stops
import FeedWatch.Proofs.Number.Quotients
import FeedWatch.Proofs.Registry.Pages
import FeedWatch.Proofs.Webhook
import FeedWatch.Proofs.Reference.Fetch
import FeedWatch.Proofs.Command.Refusals
import FeedWatch.Proofs.Query.Splits
import FeedWatch.Proofs.Query.Blank
import FeedWatch.Proofs.Json.Plain
import FeedWatch.Proofs.Log.Lines
import FeedWatch.Proofs.Store.Size
import FeedWatch.Proofs.Command.Reports
