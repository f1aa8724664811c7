import FeedWatch.Alert
import FeedWatch.Delivery
import FeedWatch.Owner
import FeedWatch.Registry

/-!
# From a frame to an alert

A frame is decoded and matched against the filters at once.  What follows takes time: the owner is
looked up, the alert is composed, and it is delivered.  Handling therefore stops at the points where
it waits; a `Stage` holds what it goes on with, and `Pipeline.resume` goes on.

Every counted frame ends in exactly one way: malformed, suppressed, unmatched, dispatched, or with a
delivery error — unless it is still waiting, or handling it ended in an error of its own.
-/

namespace FeedWatch

/-- Counts of frames by what became of them. -/
structure Stats where
  frames : Nat
  heartbeats : Nat
  malformed : Nat
  suppressed : Nat
  unmatched : Nat
  dispatched : Nat
  deliveryErrors : Nat
deriving DecidableEq

/-- No frames. -/
def Stats.zero : Stats := ⟨0, 0, 0, 0, 0, 0, 0⟩

/-- What a look-up gives, and the time it takes.  A failed look-up gives no label; `interrupted`
says that the user stopped the program meanwhile. -/
structure Lookup where
  delay : Nat
  label : Option String
  interrupted : Bool

/-- How owners are looked up. -/
inductive Resolver
  | none
  /-- A fixed answer for each owner, and no label for others. -/
  | table (answers : List (String × Lookup))
  /-- The player service at an address template; `hasClient` says whether a client was made. -/
  | service (template : String) (hasClient : Bool)

/-- What a sink makes of an alert. -/
inductive SinkReply
  | result (success : Bool)
  | noResult
  /-- A result that does not say whether it is a success. -/
  | silent
  | failure
deriving DecidableEq

/-- Whether the reply of a sink counts as a dispatch. -/
def SinkReply.isDispatch : SinkReply → Bool
  | result success => success
  | noResult | silent => true
  | failure => false

/-- Where alerts go. -/
inductive Sink
  /-- Given replies one after the other, and then only successes. -/
  | scripted (replies : List SinkReply)
  | webhook (d : Delivery)

/-- How handing an alert to the webhook ends. -/
inductive SendEnd
  /-- There is a result, which the client has counted. -/
  | counted
  /-- No webhook is set, and the alert is dropped. -/
  | dropped
  /-- There is an error in the place of a result. -/
  | raised
deriving DecidableEq

/-- The pipeline: how owners are looked up, where alerts go, the network, and the counts.
`received` holds the frames whose handling has begun, `sends` the alerts handed to the sink and
when, and `ends` how handing them to the webhook ended. -/
structure Pipeline where
  pages : AlertPages
  resolver : Resolver
  sink : Sink
  network : Http.Network
  stats : Stats
  lookups : Nat
  received : List Payload
  sends : List (Nat × Alert)
  ends : List SendEnd

/-- Why handling a frame ends in an error. -/
inductive HandleError
  | frame (e : FrameError)
  | template (e : Text.TemplateError)
  | interrupted

/-- What became of a frame: no alert, an alert, or an error. -/
abbrev Handled := Except HandleError (Option Alert)

/-- What handling a frame goes on with after a wait. -/
inductive Stage
  /-- The owner was looked up for an event that some filters accept. -/
  | labelled (e : Event) (filters : List Filter) (label : Option String) (interrupted : Bool)
  /-- The reply to an attempt to post an alert is there. -/
  | replied (a : Alert) (attempt : Nat) (reply : Http.Reply)
  /-- The next attempt is due. -/
  | retrying (a : Alert) (attempt : Nat)

/-- Handling is done, or waits. -/
inductive Progress
  | done (r : Handled)
  | wait (delay : Nat) (stage : Stage)

namespace Pipeline

/-- A pipeline before the first frame. -/
def start (pages : AlertPages) (resolver : Resolver) (sink : Sink) (network : Http.Network) :
    Pipeline :=
  { pages, resolver, sink, network, stats := .zero, lookups := 0, received := [], sends := []
    ends := [] }

/-- Changes the counts. -/
def count (f : Stats → Stats) (p : Pipeline) : Pipeline := { p with stats := f p.stats }

/-- Handing an alert to the webhook has ended. -/
def ended (x : SendEnd) (p : Pipeline) : Pipeline := { p with ends := p.ends ++ [x] }

/-- Handling ends with a delivery error. -/
def undelivered (p : Pipeline) : Pipeline × Progress :=
  (p.count fun s => { s with deliveryErrors := s.deliveryErrors + 1 }, .done (.ok none))

/-- Handling ends with a dispatched alert. -/
def dispatched (a : Alert) (p : Pipeline) : Pipeline × Progress :=
  (p.count fun s => { s with dispatched := s.dispatched + 1 }, .done (.ok (some a)))

/-- Goes on by whether an alert was dispatched. -/
def concluded (a : Alert) (success : Bool) (p : Pipeline) : Pipeline × Progress :=
  if success then p.dispatched a else p.undelivered

/-- Goes on after the reply to an attempt to post. -/
def onReply (now : Nat) (d : Delivery) (a : Alert) (attempt : Nat) (reply : Http.Reply)
    (p : Pipeline) : Pipeline × Progress :=
  match d.react attempt reply with
  | .finish r =>
    ({ p with sink := .webhook (d.record r now) }.ended .counted).concluded a r.success
  | .retry _ delay => ({ p with sink := .webhook d }, .wait delay (.retrying a (attempt + 1)))
  | .fail (.trouble .interrupted) => ({ p with sink := .webhook d }, .done (.error .interrupted))
  | .fail _ => ({ p with sink := .webhook d }.ended .raised).undelivered

/-- Posts an alert to the address of the moment, which may have been taken away meanwhile. -/
def attemptPost (now : Nat) (d : Delivery) (a : Alert) (attempt : Nat) (p : Pipeline) :
    Pipeline × Progress :=
  let (d, network, timed) := d.post d.url a.toJson now p.network
  let p := { p with network, sink := .webhook d }
  if timed.delay = 0 then p.onReply now d a attempt timed.reply
  else (p, .wait timed.delay (.replied a attempt timed.reply))

/-- Hands an alert to the sink. -/
def deliver (now : Nat) (a : Alert) (p : Pipeline) : Pipeline × Progress :=
  let p := { p with sends := p.sends ++ [(now, a)] }
  match p.sink with
  | .scripted [] => p.dispatched a
  | .scripted (reply :: rest) => { p with sink := .scripted rest }.concluded a reply.isDispatch
  | .webhook d =>
    if d.address?.isNone then (p.ended .dropped).undelivered
    else if d.attempts = 0 then
      let d := d.record (.failed none Delivery.noAttempts) now
      ({ p with sink := .webhook d }.ended .counted).undelivered
    else p.attemptPost now d a 1

/-- Composes the alert of an event with the common text of the moment, and delivers it. -/
def compose (registry : Registry) (epoch : Int) (now : Nat) (e : Event) (filters : List Filter)
    (label : Option String) (p : Pipeline) : Pipeline × Progress :=
  match Alert.ofEvent p.pages e (filters.map Filter.stored) registry.settings.alert label
      (Moment.ofMicros (epoch + now)) with
  | .error e => (p, .done (.error (.template e)))
  | .ok a => p.deliver now a

/-- Looks an owner up; without a resolver there is nothing to wait for. -/
def ask (now : Nat) (owner : String) (p : Pipeline) : Pipeline × Lookup :=
  match p.resolver with
  | .none => (p, ⟨0, none, false⟩)
  | .table answers =>
    ({ p with lookups := p.lookups + 1 }, (answers.lookup owner).getD ⟨0, none, false⟩)
  | .service template _ =>
    let p := { p with lookups := p.lookups + 1, resolver := .service template true }
    match Owner.url template owner with
    | .error _ => (p, ⟨0, none, false⟩)
    | .ok address =>
      let (network, timed) := p.network.request "GET" (some address) none now
      let p := { p with network }
      match Owner.ofReply timed.reply with
      | .ok label => (p, ⟨timed.delay, label, false⟩)
      | .error t => (p, ⟨timed.delay, none, t = .interrupted⟩)

/-- Goes on when the look-up is done. -/
def onLabel (registry : Registry) (epoch : Int) (now : Nat) (e : Event) (filters : List Filter)
    (label : Option String) (interrupted : Bool) (p : Pipeline) : Pipeline × Progress :=
  if interrupted then (p, .done (.error .interrupted))
  else p.compose registry epoch now e filters label

/-- Handles a decoded event. -/
def handleEvent (registry : Registry) (epoch : Int) (now : Nat) (e : Event) (p : Pipeline) :
    Pipeline × Progress :=
  if e.isOwnerOnly then
    (p.count fun s => { s with suppressed := s.suppressed + 1 }, .done (.ok none))
  else
    let filters := registry.accepting e.item
    if filters.isEmpty then
      (p.count fun s => { s with unmatched := s.unmatched + 1 }, .done (.ok none))
    else
      let (p, lookup) := p.ask now e.item.owner
      if lookup.delay = 0 then
        p.onLabel registry epoch now e filters lookup.label lookup.interrupted
      else (p, .wait lookup.delay (.labelled e filters lookup.label lookup.interrupted))

/-- Handles a frame up to its first wait. -/
def receive (registry : Registry) (epoch : Int) (now : Nat) (payload : Payload) (p : Pipeline) :
    Pipeline × Progress :=
  let p := { p with received := p.received ++ [payload] }
  if payload.isHeartbeat then
    (p.count fun s => { s with heartbeats := s.heartbeats + 1 }, .done (.ok none))
  else if !registry.settings.enabled then (p, .done (.ok none))
  else
    let p := p.count fun s => { s with frames := s.frames + 1 }
    match Event.ofFrame payload with
    | .ok e => p.handleEvent registry epoch now e
    | .error e =>
      if e.isRejection then
        (p.count fun s => { s with malformed := s.malformed + 1 }, .done (.ok none))
      else (p, .done (.error (.frame e)))

/-- Goes on after a wait, up to the next one. -/
def resume (registry : Registry) (epoch : Int) (now : Nat) (p : Pipeline) :
    Stage → Pipeline × Progress
  | .labelled e filters label interrupted =>
    p.onLabel registry epoch now e filters label interrupted
  | .replied a attempt reply =>
    match p.sink with
    | .webhook d => p.onReply now d a attempt reply
    | .scripted _ => p.undelivered
  | .retrying a attempt =>
    match p.sink with
    | .webhook d => p.attemptPost now d a attempt
    | .scripted _ => p.undelivered

/-- The number of waits that handling one frame can have: the look-up, and two for each attempt. -/
def waitLimit (p : Pipeline) : Nat :=
  match p.sink with
  | .webhook d => 2 * d.attempts + 1
  | .scripted _ => 1

/-- Waits as often as handling asks for it; `fuel` bounds the number of waits. -/
def finish (registry : Registry) (epoch : Int) :
    Nat → Nat → Pipeline × Progress → (Pipeline × Nat) × Handled
  | _, now, (p, .done r) => ((p, now), r)
  | 0, now, (p, .wait _ _) => ((p, now), .ok none)
  | fuel + 1, now, (p, .wait delay stage) =>
    finish registry epoch fuel (now + delay) (p.resume registry epoch (now + delay) stage)

/-- Handles a frame with nothing else going on; the clock moves by its waits. -/
def handle (registry : Registry) (epoch : Int) (now : Nat) (payload : Payload) (p : Pipeline) :
    (Pipeline × Nat) × Handled :=
  finish registry epoch p.waitLimit now (p.receive registry epoch now payload)

end Pipeline

/-- The filters of a waiting frame as they are now: a filter that the registry still holds has the
alert text it has there. -/
def Stage.withAlerts (registry : Registry) : Stage → Stage
  | .labelled e filters label interrupted =>
    .labelled e (filters.map fun f =>
      (registry.filters.find? (·.serial == f.serial)).getD f) label interrupted
  | stage => stage

end FeedWatch
