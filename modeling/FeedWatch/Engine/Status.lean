import FeedWatch.Engine.Basic

/-!
# Status reports

What is going on, as JSON: the state of the connection, the counts of the listener, the pipeline and
the deliveries.
-/

namespace FeedWatch

/-- The counts of frames. -/
def Stats.toJson (s : Stats) : Json := .obj [
  ("frames", .nat s.frames), ("heartbeats", .nat s.heartbeats), ("malformed", .nat s.malformed),
  ("suppressed", .nat s.suppressed), ("unmatched", .nat s.unmatched),
  ("dispatched", .nat s.dispatched), ("delivery_errors", .nat s.deliveryErrors)]

/-- A moment in virtual time, which starts at `epoch`. -/
def momentJson (epoch : Int) (time : Nat) : Json := .str (Moment.ofMicros (epoch + time)).toText

/-- The counts of deliveries. -/
def Metrics.toJson (epoch : Int) (m : Metrics) : Json := .obj [
  ("total_sent", .nat m.sent), ("total_failed", .nat m.failed),
  ("last_success", m.lastSuccess.elim .null (momentJson epoch)),
  ("last_failure", m.lastFailure.elim .null (momentJson epoch))]

/-- The report of the listener of a station. -/
def Station.listenerStatus (s : Station) : List (String × Json) := [
  ("state", .str s.listener.phase.name),
  ("connect_attempts", .nat s.listener.connectAttempts),
  ("reconnects_scheduled", .nat s.listener.reconnectsScheduled),
  ("frames_received", .nat s.listener.framesReceived),
  ("events_in_flight", .nat s.listener.events.length),
  ("pipeline", s.pipeline.stats.toJson)]

/-- The report of the deliveries of a station, if it has a webhook client. -/
def Station.deliveryStatus (epoch : Int) (s : Station) : List (String × Json) :=
  match s.pipeline.sink with
  | .webhook d => [("delivery", d.metrics.toJson epoch)]
  | .scripted _ => []

end FeedWatch
