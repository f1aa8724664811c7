import FeedWatch.Command.Report
import FeedWatch.Config
import FeedWatch.Watcher

/-!
# Watching the feed

The command starts a watcher and lets it run until the user stops it.  Its status is taken at that
moment; then the watcher is stopped, which may take a while.  The user's other way to end it, an
interrupt, leaves no report.
-/

namespace FeedWatch.Command

/-- A command that watches the feed.  The delay before a reconnect is the configured one, unless one
is given or the option for it is given without a value. -/
structure Watch where
  reconnectDelay : Option (Option Binary64)

namespace Watch

/-- The word for the command. -/
def name : String := "run"

/-- What the watcher is set up with. -/
def setup (config : Config) (c : Watch) : WatcherSetup :=
  { store := config.store
    timing := {
      feedUrl := config.feedUrl
      heartbeatInterval := config.heartbeatInterval
      reconnectDelay := c.reconnectDelay.getD (some config.reconnectDelay)
      refreshInterval := config.refreshInterval }
    pages := config.pages
    playerTemplate := config.playerTemplate
    referenceUrl := config.referenceUrl }

/-- How the command ends: what it has said, its report unless it was interrupted, and the engine. -/
structure Ending where
  said : String
  report : Option Report
  engine : Engine

/-- What is said once the watcher runs. -/
def greeting (feedUrl : String) : String :=
  "Watching " ++ feedUrl ++ "\nPress Ctrl+C to stop\n\n"

/-- What is said once the watcher is stopped. -/
def farewell : String := "\nWatcher stopped\n"

/-- What is said after an interrupt. -/
def interruption : String := "\nInterrupted\n"

/-- The report of a watcher that does not start, none after an interrupt. -/
def startReport? : StartError → Option Report
  | .fetch (.trouble .interrupted) => none
  | .fetch e =>
    if e.isUnavailable then some (.refused "reference_unavailable" e.message)
    else some (.failed name e.message)
  | .registry e => some (.failed name e.message)

/-- How long the user's wish to end is watched for in one go, in seconds. -/
def vigilSpan : Binary64 := .ofInt 300

/-- Watches for the user's wish to end, in at most `fuel` goes. -/
def awaitRequest : Nat → Engine → Engine
  | 0, e => e
  | fuel + 1, e =>
    if e.isRequested || e.interrupted then e
    else
      let timer := e.schedule.nextTimer
      let vigil := e.nextTask
      let e := { e with schedule := e.schedule.setTimer vigilSpan .release }
      let e := ((e.spawn 0 .vigil).outsideAwaits .release).run
      if e.isLive vigil then awaitRequest fuel ((e.cancel vigil).outsideAwaits .release).run
      else awaitRequest fuel { e with schedule := e.schedule.callOff timer }

/-- Lets a watcher that has been started run until the user's wish to end, which comes by a time in
microseconds. -/
def runUntil (stopTime : Nat) (w : Watcher) : Watcher :=
  w.alter (awaitRequest (stopTime / 300000000 + 2))

/-- Stops a watcher and reports the status it had before. -/
def finish (said : String) (w : Watcher) : Ending :=
  if w.engine.interrupted then ⟨said ++ interruption, none, w.engine⟩
  else
    match w.stop with
    | (stopped, some failure) => ⟨said, some (.failed name failure.message), stopped.engine⟩
    | (stopped, none) =>
      if stopped.engine.interrupted then ⟨said ++ interruption, none, stopped.engine⟩
      else ⟨said ++ farewell, some (.done [("final_status", w.status)]), stopped.engine⟩

/-- Carries the command out. -/
def perform (config : Config) (epoch : Int) (disk : Disk) (network : Http.Network) (feed : Feed)
    (stopTime : Nat) (c : Watch) : Ending :=
  let w := (Watcher.create (c.setup config) epoch disk network feed).alter fun e =>
    { e with schedule := e.schedule.setTimer (Engine.seconds stopTime) .request }
  match w.start none with
  | (w, .error e) =>
    match startReport? e with
    | none => ⟨interruption, none, w.engine⟩
    | some report => ⟨"", some report, w.engine⟩
  | (w, .ok ()) => finish (greeting config.feedUrl) (runUntil stopTime w)

end Watch

end FeedWatch.Command
