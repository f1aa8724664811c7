import FeedWatch.Engine.Schedule
import FeedWatch.Feed
import FeedWatch.Pipeline

/-!
# Tasks in virtual time

The watcher is a handful of tasks: the connection to the feed, the heartbeat, the delay before a
reconnect, one task for each frame in flight, and the look at the settings file.  A task runs until
it waits: for a moment, for something to arrive on a socket, or for another task.  The schedule
tells whose turn it is; a task that is cancelled takes its turn to end.

Every start of the watcher sets up a station: a registry, a pipeline and a listener.  A station that
was not stopped goes on beside later ones.  All stations share the disk, the network and the feed.

The party outside, which starts and stops the watcher, is a task too.  While it is awake nothing
else happens; when it waits, the others take their turns until it is awake again.
-/

namespace FeedWatch

/-- What a task does next. -/
inductive Work
  /-- The party outside goes on. -/
  | outside
  /-- Try to connect. -/
  | connect
  /-- The attempt to connect is over. -/
  | connected (a : Attempt)
  /-- Read what arrives on a socket. -/
  | read (socket : Nat)
  /-- The socket that was read is closed, or closing it failed. -/
  | closed (failure : Option Failure)
  /-- Wait before the next heartbeat on a socket. -/
  | rest (socket : Nat)
  /-- Send a heartbeat on a socket. -/
  | beat (socket : Nat)
  /-- A heartbeat on a socket was sent, or failed. -/
  | sent (socket : Nat) (failure : Option Failure)
  /-- Wait before a reconnect. -/
  | pause
  /-- Reconnect. -/
  | reconnect
  /-- Handle a frame. -/
  | receive (p : Payload)
  /-- Go on with a frame. -/
  | resume (s : Stage)
  /-- Wait before a look at the settings file. -/
  | idle
  /-- Look at the settings file. -/
  | refresh
  /-- Watch for the user's wish to end. -/
  | vigil

/-- What a task waits for: its turn in the queue, a timer, something to arrive, the end of one task
or of several, its release, or the user's wish to end. -/
inductive Wait
  | turn
  | timer (number : Nat)
  | arrival (socket : Nat)
  | completion (task : TaskId)
  | gathering (tasks : List TaskId)
  | release
  | request
deriving DecidableEq

/-- Whether the end of a task is one of several that are waited for. -/
def Wait.gathers (id : TaskId) : Wait → Bool
  | gathering tasks => tasks.contains id
  | _ => false

/-- What is left to wait for when a task has ended. -/
def Wait.without (id : TaskId) : Wait → Wait
  | gathering tasks => .gathering (tasks.erase id)
  | wait => wait

/-- A task that is not done.  `timer` is the last timer it has waited for. -/
structure Task where
  id : TaskId
  station : Nat
  work : Work
  wait : Wait
  timer : Option Nat
  cancelled : Bool

/-- The states of the connection to the feed. -/
inductive Phase
  | disconnected
  | connecting
  | connected
deriving DecidableEq

/-- The name of a state. -/
def Phase.name : Phase → String
  | disconnected => "disconnected"
  | connecting => "connecting"
  | connected => "connected"

/-- The listener: the state of the connection, the tasks it holds on to, and its counts. -/
structure Listener where
  phase : Phase
  running : Bool
  hasSession : Bool
  socket : Option Nat
  connection : Option TaskId
  heartbeat : Option TaskId
  reconnect : Option TaskId
  events : List TaskId
  connectAttempts : Nat
  reconnectsScheduled : Nat
  framesReceived : Nat

/-- The listener before the first start. -/
def Listener.initial : Listener :=
  { phase := .disconnected, running := false, hasSession := false, socket := none
    connection := none, heartbeat := none, reconnect := none, events := []
    connectAttempts := 0, reconnectsScheduled := 0, framesReceived := 0 }

/-- What one start of the watcher sets up. -/
structure Station where
  index : ReferenceIndex
  registry : Registry
  pipeline : Pipeline
  listener : Listener

/-- The stages of stopping a watcher or a listener. -/
inductive Stopping
  /-- The look at the settings file ends. -/
  | refresher
  /-- The tasks that are still to be cancelled, each once the one before it is done. -/
  | cancelling (tasks : List TaskId)
  /-- The socket is being closed, which may fail. -/
  | closing (failure : Option Failure)
  /-- The socket is closed; frames in flight are waited for. -/
  | draining

/-- Addresses and intervals, which are in seconds.  Without a delay before it, a reconnect is never
made. -/
structure Timing where
  feedUrl : String
  heartbeatInterval : Binary64
  reconnectDelay : Option Binary64
  refreshInterval : Binary64

/-- The addresses and intervals unless others are set. -/
def Timing.standard : Timing :=
  { feedUrl := "wss://pitpanda.rocks/api/newmystics", heartbeatInterval := .ofInt 30
    reconnectDelay := some (.ofInt 30), refreshInterval := .ofInt 5 }

/-- Everything that is going on.  `epoch` is the date of time zero, `stamp` the stamp of the
settings file when it was last taken over, and `failure` what the last stop failed with. -/
structure Engine where
  timing : Timing
  epoch : Int
  schedule : Schedule
  store : Store
  disk : Disk
  nextSerial : Nat
  network : Http.Network
  feed : Feed
  stations : List Station
  tasks : List Task
  nextTask : TaskId
  refresher : Option TaskId
  stamp : Option Nat
  stopping : Option Stopping
  failure : Option Failure
  isRequested : Bool
  isAwake : Bool
  interrupted : Bool

namespace Engine

/-- The task that is the party outside. -/
def outside : TaskId := 0

/-- Nothing is going on yet, and the party outside is awake. -/
def start (timing : Timing) (epoch : Int) (store : Store) (disk : Disk) (network : Http.Network)
    (feed : Feed) : Engine :=
  { timing, epoch, schedule := .start, store, disk, nextSerial := 0, network, feed, stations := []
    tasks := [⟨outside, 0, .outside, .turn, none, false⟩], nextTask := 1, refresher := none
    stamp := none, stopping := none, failure := none, isRequested := false, isAwake := true
    interrupted := false }

/-- The time in whole microseconds. -/
def micros (e : Engine) : Nat := (e.schedule.now.toParts 1000000).getD 0

/-- Whole microseconds as seconds. -/
def seconds (micros : Nat) : Binary64 := .ofRatio false micros 1000000

/-! ## Stations -/

/-- The number of the newest station, if there is one. -/
def newest? (e : Engine) : Option Nat :=
  if e.stations.isEmpty then none else some (e.stations.length - 1)

/-- Changes a station. -/
def alterStation (k : Nat) (f : Station → Station) (e : Engine) : Engine :=
  { e with stations := e.stations.modify k f }

/-- The listener of a station. -/
def listener (k : Nat) (e : Engine) : Listener :=
  (e.stations[k]?.map Station.listener).getD .initial

/-- Changes the listener of a station. -/
def alterListener (k : Nat) (f : Listener → Listener) (e : Engine) : Engine :=
  e.alterStation k fun s => { s with listener := f s.listener }

/-- The registry of a station at work. -/
def session (s : Station) (e : Engine) : Session :=
  { store := e.store, index := s.index, disk := e.disk, registry := s.registry
    nextSerial := e.nextSerial }

/-- Keeps what an operation on the registry of a station leaves. -/
def keep (k : Nat) (s : Session) (e : Engine) : Engine :=
  { e with disk := s.disk, nextSerial := s.nextSerial }.alterStation k fun st =>
    { st with registry := s.registry }

/-- Adds a station; its number is the number of stations before. -/
def addStation (s : Session) (p : Pipeline) (e : Engine) : Engine :=
  { e with
    disk := s.disk, nextSerial := s.nextSerial
    stations := e.stations ++ [⟨s.index, s.registry, p, .initial⟩] }

/-! ## Tasks -/

/-- The task with a number, if it is not done. -/
def task? (id : TaskId) (e : Engine) : Option Task := e.tasks.find? (·.id == id)

/-- Whether a task is not done. -/
def isLive (id : TaskId) (e : Engine) : Bool := (e.task? id).isSome

/-- Whether a task that may be held is not done. -/
def isHeldLive (held : Option TaskId) (e : Engine) : Bool := held.any e.isLive

/-- Adds a call at the end of the queue. -/
def enqueue (c : Call) (e : Engine) : Engine := { e with schedule := e.schedule.enqueue c }

/-- Adds a task of a station at the end of the queue; its number is `e.nextTask`. -/
def spawn (k : Nat) (work : Work) (e : Engine) : Engine :=
  { e with
    tasks := e.tasks ++ [⟨e.nextTask, k, work, .turn, none, false⟩]
    schedule := e.schedule.enqueue (.turn e.nextTask)
    nextTask := e.nextTask + 1 }

/-- Changes a task. -/
def alterTask (id : TaskId) (f : Task → Task) (e : Engine) : Engine :=
  { e with tasks := e.tasks.map fun t => if t.id = id then f t else t }

/-- A task waits for something other than its turn or a timer before it goes on. -/
def await (id : TaskId) (work : Work) (wait : Wait) (e : Engine) : Engine :=
  e.alterTask id fun t => { t with work, wait }

/-- A task waits for a time before it goes on; without a time it goes to the end of the queue. -/
def awaitTime (id : TaskId) (work : Work) (delay : Binary64) (e : Engine) : Engine :=
  if delay.isZero || delay.isNegative then
    (e.alterTask id fun t => { t with work, wait := .turn }).enqueue (.turn id)
  else
    let number := e.schedule.nextTimer
    let e := e.alterTask id fun t => { t with work, wait := .timer number, timer := some number }
    { e with schedule := e.schedule.setTimer delay (.ring id number) }

/-- The tasks that wait as told join the queue. -/
def wake (p : Task → Bool) (e : Engine) : Engine :=
  { e with
    tasks := e.tasks.map fun t => if p t then { t with wait := .turn } else t
    schedule := { e.schedule with
      queue := e.schedule.queue ++ ((e.tasks.filter p).map fun t => Call.turn t.id) } }

/-- Cancels a task: it takes its turn to end. -/
def cancel (id : TaskId) (e : Engine) : Engine :=
  (e.alterTask id fun t => { t with cancelled := true }).wake fun t => t.id == id && t.wait != .turn

/-- A task is done, and who waits for its end goes on. -/
def finishTask (id : TaskId) (e : Engine) : Engine :=
  let e := { e with tasks := e.tasks.filter (·.id != id) }
  e.wake fun t => t.wait == .completion id

/-- A task ends because it was cancelled. -/
def endCancelled (t : Task) (e : Engine) : Engine :=
  let e := match t.timer with
    | some number => { e with schedule := e.schedule.callOff number }
    | none => e
  e.finishTask t.id

/-- A timer of a task has gone off. -/
def ring (id : TaskId) (number : Nat) (e : Engine) : Engine :=
  e.wake fun t => t.id == id && t.wait == .timer number

/-! ## The connection -/

/-- Schedules a reconnect, unless one is pending. -/
def scheduleReconnect (k : Nat) (e : Engine) : Engine :=
  if e.isHeldLive (e.listener k).reconnect then e
  else
    (e.alterListener k fun l => { l with
      reconnectsScheduled := l.reconnectsScheduled + 1
      reconnect := some e.nextTask }).spawn k .pause

/-- The connection is lost or was not made: the heartbeat stops, and a reconnect is scheduled. -/
def disconnected (k : Nat) (e : Engine) : Engine :=
  let e := match (e.listener k).heartbeat with
    | some id => e.cancel id
    | none => e
  let e := e.alterListener k fun l => { l with
    heartbeat := none, socket := none, phase := .disconnected }
  if (e.listener k).running then e.scheduleReconnect k else e

/-- Takes a message: a frame that is no heartbeat gets a task of its own. -/
def takeFrame (k : Nat) (p : Payload) (e : Engine) : Engine :=
  let e := e.alterListener k fun l => { l with framesReceived := l.framesReceived + 1 }
  if p.isHeartbeat then e
  else
    (e.alterListener k fun l => { l with events := l.events ++ [e.nextTask] }).spawn k (.receive p)

/-- The end of a connection task, whose socket is closed; if that failed in a way that is no loss of
the connection, nothing else happens. -/
def closed (k : Nat) (id : TaskId) (failure : Option Failure) (e : Engine) : Engine :=
  match failure with
  | some .other => e.finishTask id
  | _ => (e.disconnected k).finishTask id

/-- A connection task has nothing more to read and closes the socket. -/
def endConnection (k : Nat) (id : TaskId) (socket : Nat) (e : Engine) : Engine :=
  let delay := e.feed.closeDelay socket
  let (feed, failure) := e.feed.close socket
  let e := { e with feed }
  if delay = 0 then e.closed k id failure else e.awaitTime id (.closed failure) (seconds delay)

/-- Reads what has arrived on a socket, at most `fuel` arrivals. -/
def readFrom (k : Nat) (id : TaskId) (socket : Nat) : Nat → Engine → Engine
  | 0, e => e.await id (.read socket) (.arrival socket)
  | fuel + 1, e =>
    match e.feed.next? socket with
    | none => e.await id (.read socket) (.arrival socket)
    | some (arrival, feed) =>
      let e := { e with feed }
      match arrival with
      | .message (.frame p) => readFrom k id socket fuel (e.takeFrame k p)
      | .message .control => readFrom k id socket fuel e
      | .message .error | .ended | .failed _ => e.endConnection k id socket

/-- Reads what has arrived on a socket. -/
def read (k : Nat) (id : TaskId) (socket : Nat) (e : Engine) : Engine :=
  readFrom k id socket ((e.feed.sockets[socket]?.elim 0 (·.inbox.length)) + 1) e

/-- An attempt to connect is over. -/
def connected (k : Nat) (id : TaskId) (a : Attempt) (e : Engine) : Engine :=
  match a.fails with
  | some _ => (e.disconnected k).finishTask id
  | none =>
    let socket := e.feed.sockets.length
    let e := { e with feed := e.feed.accept a }
    let e := e.alterListener k fun l => { l with
      socket := some socket, phase := .connected, heartbeat := some e.nextTask }
    (e.spawn k (.rest socket)).read k id socket

/-- Tries to connect. -/
def connect (k : Nat) (id : TaskId) (e : Engine) : Engine :=
  let e := e.alterListener k fun l => { l with
    phase := .connecting, connectAttempts := l.connectAttempts + 1, hasSession := true }
  let (feed, a) := e.feed.attempt e.timing.feedUrl
  let e := { e with feed }
  if a.delay = 0 then e.connected k id a else e.awaitTime id (.connected a) (seconds a.delay)

/-- A heartbeat was sent; one that failed is the last. -/
def sent (id : TaskId) (socket : Nat) (failure : Option Failure) (e : Engine) : Engine :=
  if failure.isSome then e.finishTask id
  else e.awaitTime id (.beat socket) e.timing.heartbeatInterval

/-- Sends a heartbeat. -/
def beat (id : TaskId) (socket : Nat) (e : Engine) : Engine :=
  let delay := e.feed.sendDelay socket
  let (feed, failure) := e.feed.send socket heartbeat
  let e := { e with feed }
  if delay = 0 then e.sent id socket failure
  else e.awaitTime id (.sent socket failure) (seconds delay)

/-- The pause before a reconnect is over. -/
def reconnect (k : Nat) (id : TaskId) (e : Engine) : Engine :=
  let e := e.alterListener k fun l => { l with reconnect := none }
  let e :=
    if (e.listener k).running then
      (e.alterListener k fun l => { l with connection := some e.nextTask }).spawn k .connect
    else e
  e.finishTask id

/-! ## Frames -/

/-- The task of a frame is done. -/
def finishFrame (k : Nat) (id : TaskId) (e : Engine) : Engine :=
  let e := (e.finishTask id).enqueue (.settled k id)
  if e.tasks.any fun t => t.wait.gathers id then e.enqueue (.gathered id) else e

/-- A listener lets go of the task of a frame. -/
def settled (k : Nat) (id : TaskId) (e : Engine) : Engine :=
  e.alterListener k fun l => { l with events := l.events.erase id }

/-- One of several tasks that are waited for is done. -/
def gathered (id : TaskId) (e : Engine) : Engine :=
  let e := { e with tasks := e.tasks.map fun (t : Task) => { t with wait := t.wait.without id } }
  e.wake fun t => t.wait == .gathering []

/-- Goes on with a frame at a station, whose pipeline has the network meanwhile. -/
def progress (k : Nat) (id : TaskId)
    (handle : Registry → Int → Nat → Pipeline → Pipeline × Progress) (e : Engine) : Engine :=
  match e.stations[k]? with
  | none => e.finishTask id
  | some s =>
    let (p, progress) := handle s.registry e.epoch e.micros { s.pipeline with network := e.network }
    let e := { e with network := p.network }.alterStation k fun s => { s with pipeline := p }
    match progress with
    | .wait delay stage => e.awaitTime id (.resume stage) (seconds delay)
    | .done handled =>
      let e := e.finishFrame k id
      match handled with
      | .error .interrupted => { e with interrupted := true }
      | _ => e

/-! ## Settings -/

/-- The address of the webhook in the settings. -/
def webhookUrl (r : Registry) : Option String := r.settings.webhook.map Webhook.url

/-- Where the alerts of a station go from now on. -/
def setWebhookUrl (k : Nat) (url : Option String) (e : Engine) : Engine :=
  e.alterStation k fun s =>
    match s.pipeline.sink with
    | .webhook d => { s with pipeline := { s.pipeline with sink := .webhook { d with url } } }
    | .scripted _ => s

/-- Takes the settings file over at the newest station if it has changed since; whether it was taken
over. -/
def refresh (e : Engine) : Engine × Bool :=
  let stamp := e.store.stamp? e.disk
  match e.newest?, e.stations.getLast? with
  | some k, some s =>
    if stamp.isNone || stamp == e.stamp then (e, false)
    else
      match (e.session s).reload with
      | (session, .error _) => (e.keep k session, false)
      | (session, .ok ()) =>
        ({ e.keep k session with stamp }.setWebhookUrl k (webhookUrl session.registry), true)
  | _, _ => (e, false)

/-! ## Stopping -/

/-- Stopping is over. -/
def endStop (failure : Option Failure) (e : Engine) : Engine :=
  { e with stopping := none, failure, isAwake := true }

/-- Lets go of the client session of a station, which ends stopping. -/
def leaveSession (k : Nat) (e : Engine) : Engine :=
  let closed := if (e.listener k).hasSession then 1 else 0
  let e := { e with feed := { e.feed with sessionsClosed := e.feed.sessionsClosed + closed } }
  (e.alterListener k fun l => { l with hasSession := false, phase := .disconnected }).endStop none

/-- The party outside waits. -/
def outsideAwaits (wait : Wait) (e : Engine) : Engine :=
  { e.await outside .outside wait with isAwake := false }

/-- Waits for the frames of a station that are in flight. -/
def drain (k : Nat) (e : Engine) : Engine :=
  let events := (e.listener k).events
  if events.isEmpty then e.leaveSession k
  else
    let finished := events.filter fun id => !e.isLive id
    let e := finished.foldl (fun e id => e.enqueue (.gathered id)) e
    { e.outsideAwaits (.gathering events) with stopping := some .draining }

/-- The socket of a station is closed, and the station lets go of it.  A socket that could not be
closed for another reason than a lost connection ends stopping with that failure. -/
def socketClosed (k : Nat) (failure : Option Failure) (e : Engine) : Engine :=
  match failure with
  | some .other => e.endStop (some .other)
  | _ => (e.alterListener k fun l => { l with socket := none }).drain k

/-- Closes the socket of a station, if there is one. -/
def closeSocket (k : Nat) (e : Engine) : Engine :=
  match (e.listener k).socket with
  | none => e.drain k
  | some socket =>
    let delay := e.feed.closeDelay socket
    let (feed, failure) := e.feed.close socket
    let e := { e with feed }
    if delay = 0 then e.socketClosed k failure
    else
      { e.awaitTime outside .outside (seconds delay) with
        isAwake := false, stopping := some (.closing failure) }

/-- Lets go of the tasks of a station once they are done, and closes its socket. -/
def closeAndDrain (k : Nat) (e : Engine) : Engine :=
  (e.alterListener k fun l => { l with
    reconnect := none, heartbeat := none, connection := none }).closeSocket k

/-- Cancels tasks of a station, each once the one before it is done. -/
def cancelNext (k : Nat) : List TaskId → Engine → Engine
  | [], e => e.closeAndDrain k
  | id :: rest, e =>
    if e.isLive id then
      { (e.cancel id).outsideAwaits (.completion id) with stopping := some (.cancelling rest) }
    else cancelNext k rest e

/-- Begins to stop the listener of a station, if it is running. -/
def stopListening (k : Nat) (e : Engine) : Engine :=
  let l := e.listener k
  if l.running then
    (e.alterListener k fun l => { l with running := false }).cancelNext k
      ([l.reconnect, l.heartbeat, l.connection].filterMap id)
  else e.endStop none

/-- Begins to stop the watcher: first the look at the settings file, then the newest station. -/
def stopWatching (e : Engine) : Engine :=
  match e.refresher, e.newest? with
  | some id, _ =>
    if e.isLive id then
      { (e.cancel id).outsideAwaits (.completion id) with stopping := some .refresher }
    else { e with refresher := none }.stopListening (e.stations.length - 1)
  | none, some k => e.stopListening k
  | none, none => e.endStop none

/-- The party outside takes its turn: it goes on with stopping, or is awake. -/
def wakeOutside (e : Engine) : Engine :=
  let k := e.stations.length - 1
  match e.stopping with
  | none => { e with isAwake := true }
  | some .refresher => { e with refresher := none }.stopListening k
  | some (.cancelling rest) => e.cancelNext k rest
  | some (.closing failure) => e.socketClosed k failure
  | some .draining => e.leaveSession k

/-! ## Running -/

/-- The user asks for the end. -/
def request (e : Engine) : Engine :=
  let e := { e with isRequested := true }
  e.wake fun t => t.wait == .request

/-- Watches for the user's wish to end. -/
def watch (id : TaskId) (e : Engine) : Engine :=
  if e.isRequested then (e.finishTask id).enqueue (.alarm .release) else e.await id .vigil .request

/-- Runs a task until it waits or is done.  A cancelled one ends. -/
def runTask (t : Task) (e : Engine) : Engine :=
  if t.cancelled then
    let e := e.endCancelled t
    match t.work with
    | .vigil => e.enqueue (.alarm .release)
    | _ => e
  else
    match t.work with
    | .outside => e.wakeOutside
    | .connect => e.connect t.station t.id
    | .connected a => e.connected t.station t.id a
    | .read socket => e.read t.station t.id socket
    | .closed failure => e.closed t.station t.id failure
    | .rest socket => e.awaitTime t.id (.beat socket) e.timing.heartbeatInterval
    | .beat socket => e.beat t.id socket
    | .sent socket failure => e.sent t.id socket failure
    | .pause =>
      match e.timing.reconnectDelay with
      | some delay => e.awaitTime t.id .reconnect delay
      | none => e.finishTask t.id
    | .reconnect => e.reconnect t.station t.id
    | .receive p =>
      e.progress t.station t.id fun registry epoch now pipeline =>
        pipeline.receive registry epoch now p
    | .resume s =>
      e.progress t.station t.id fun registry epoch now pipeline =>
        pipeline.resume registry epoch now s
    | .idle => e.awaitTime t.id .refresh e.timing.refreshInterval
    | .refresh => e.refresh.1.awaitTime t.id .refresh e.timing.refreshInterval
    | .vigil => e.watch t.id

/-- A timer has gone off. -/
def goOff (a : Alarm) (e : Engine) : Engine :=
  match a with
  | .ring id number => e.ring id number
  | .release => e.wake (·.wait == .release)
  | .request => e.request

/-- Makes a call. -/
def make (c : Call) (e : Engine) : Engine :=
  match c with
  | .turn id =>
    match e.task? id with
    | some t => e.runTask t
    | none => e
  | .alarm a => e.goOff a
  | .settled k id => e.settled k id
  | .gathered id => e.gathered id

/-- Makes the next call, if there is one before the clock would have to move against the will. -/
def step? (mayMove : Bool) (e : Engine) : Option Engine :=
  match e.schedule.next? mayMove with
  | none => none
  | some (c, schedule) => some ({ e with schedule }.make c)

/-- The number of calls that may be made in a row.  Only tasks that never wait reach it. -/
def callLimit : Nat := 1000000

/-- Makes calls until nothing can happen without the clock moving, at most `fuel`. -/
def settleWithin : Nat → Engine → Engine
  | 0, e => e
  | fuel + 1, e =>
    if e.interrupted then e
    else
      match e.step? false with
      | none => e
      | some e => settleWithin fuel e

/-- Makes calls until nothing can happen without the clock moving. -/
def settle (e : Engine) : Engine := e.settleWithin callLimit

/-- Makes calls until the party outside is awake, at most `fuel`. -/
def runWithin : Nat → Engine → Engine
  | 0, e => e
  | fuel + 1, e =>
    if e.isAwake || e.interrupted then e
    else
      match e.step? true with
      | none => e
      | some e => runWithin fuel e

/-- Makes calls until the party outside is awake. -/
def run (e : Engine) : Engine := e.runWithin callLimit

/-- The party outside sleeps for some seconds. -/
def sleep (delay : Binary64) (e : Engine) : Engine :=
  { e.awaitTime outside .outside delay with isAwake := false }.run

/-- Time passes, in microseconds. -/
def advance (span : Nat) (e : Engine) : Engine := (e.sleep (seconds span)).settle

/-! ## What happens outside -/

/-- Starts the listener of a station, unless it is running. -/
def startListener (k : Nat) (e : Engine) : Engine :=
  if (e.listener k).running then e
  else
    (e.alterListener k fun l => { l with running := true, connection := some e.nextTask }).spawn k
      .connect

/-- Starts the look at the settings file. -/
def startRefresher (k : Nat) (e : Engine) : Engine :=
  { e with refresher := some e.nextTask }.spawn k .idle

/-- Stops the listener of the newest station. -/
def stopListener (e : Engine) : Engine × Option Failure :=
  let e := ({ e with failure := none }.stopListening (e.stations.length - 1)).run
  (e, e.failure)

/-- Something arrives on the newest socket. -/
def arrive (a : Arrival) (e : Engine) : Engine :=
  let socket := e.feed.sockets.length - 1
  let e := { e with feed := e.feed.arrive a }
  e.wake fun t => t.wait == .arrival socket

/-- An operation on the registry of a station; frames in flight see the alert texts that it sets. -/
def operate {α : Type} (k : Nat) (s : Station) (f : Session → Session × α) (e : Engine) :
    Engine × α :=
  let (session, a) := f (e.session s)
  let e := e.keep k session
  ({ e with
    tasks := e.tasks.map fun t =>
      match t.work with
      | .resume s => { t with work := .resume (s.withAlerts session.registry) }
      | _ => t }, a)

end Engine

end FeedWatch
