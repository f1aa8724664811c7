import FeedWatch.Engine.Status
import FeedWatch.Reference.Fetch

/-!
# The watcher

The watcher puts everything together: it fetches the reference, opens the registry, starts the
listener, and looks at the settings file from time to time.  Stopping it leaves nothing of the
newest station running and closes the clients it made.  A watcher that is started again without
having been stopped gets a new station, and only the newest one is reported on, refreshed and
stopped.
-/

namespace FeedWatch

/-- What a watcher is set up with. -/
structure WatcherSetup where
  store : Store
  timing : Timing
  pages : AlertPages
  playerTemplate : String
  referenceUrl : String

/-- A watcher.  Until it has been started once, the engine has no station. -/
structure Watcher where
  setup : WatcherSetup
  engine : Engine

/-- Why a watcher does not start. -/
inductive StartError
  | fetch (e : FetchError)
  | registry (e : RegistryError)

namespace Watcher

/-- A watcher before its first start, in a world. -/
def create (setup : WatcherSetup) (epoch : Int) (disk : Disk) (network : Http.Network)
    (feed : Feed) : Watcher :=
  { setup, engine := .start setup.timing epoch setup.store disk network feed }

/-- Changes the engine. -/
def alter (f : Engine → Engine) (w : Watcher) : Watcher := { w with engine := f w.engine }

/-- The newest station. -/
def station? (w : Watcher) : Option Station := w.engine.stations.getLast?

/-- Fetches the reference; the clock moves until the reply is there. -/
def fetchIndex (w : Watcher) : Watcher × Except FetchError ReferenceIndex :=
  let e := w.engine
  let (network, timed) := e.network.request "GET" (some w.setup.referenceUrl) none e.micros
  let e := { e with network }
  let e := if timed.delay = 0 then e else e.sleep (Engine.seconds timed.delay)
  ({ w with engine := { e with network := e.network.close true } },
    ReferenceIndex.ofReply timed.reply)

/-- Opens the registry and starts everything. -/
def startWith (index : ReferenceIndex) (w : Watcher) : Watcher × Except StartError Unit :=
  let e := w.engine
  match Session.openOn e.store index e.disk e.nextSerial with
  | (disk, .error failure) => ({ w with engine := { e with disk } }, .error (.registry failure))
  | (_, .ok session) =>
    let pipeline := Pipeline.start w.setup.pages (.service w.setup.playerTemplate false)
      (.webhook (.ofUrl (Engine.webhookUrl session.registry))) e.network
    let k := e.stations.length
    let e := e.addStation session pipeline
    let e := { e with stamp := e.store.stamp? e.disk }
    ({ w with engine := (e.startListener k).startRefresher k }, .ok ())

/-- Starts the watcher with an index, or with the one it fetches. -/
def start (index : Option ReferenceIndex) (w : Watcher) : Watcher × Except StartError Unit :=
  match index with
  | some index => w.startWith index
  | none =>
    match w.fetchIndex with
    | (w, .error e) => (w, .error (.fetch e))
    | (w, .ok index) => w.startWith index

/-- Closes the clients that the newest station made. -/
def closeClients (e : Engine) : Engine :=
  match e.newest?, e.stations.getLast? with
  | some k, some s =>
    let p := s.pipeline
    let (p, network) := match p.resolver with
      | .service template hasClient =>
        ({ p with resolver := .service template false }, e.network.close hasClient)
      | _ => (p, e.network)
    let (p, network) := match p.sink with
      | .webhook d =>
        let (d, network) := d.close network
        ({ p with sink := .webhook d }, network)
      | .scripted _ => (p, network)
    { e with network }.alterStation k fun s => { s with pipeline := p }
  | _, _ => e

/-- Stops the watcher.  If the listener cannot be stopped, the clients stay open. -/
def stop (w : Watcher) : Watcher × Option Failure :=
  let e := ({ w.engine with failure := none }.stopWatching).run
  match e.failure with
  | some f => ({ w with engine := e }, some f)
  | none => ({ w with engine := closeClients e }, none)

/-- Takes the settings file over if it has changed; whether it was taken over. -/
def refresh (w : Watcher) : Watcher × Bool :=
  let (e, changed) := w.engine.refresh
  ({ w with engine := e }, changed)

/-- The report of the watcher. -/
def status (w : Watcher) : Json :=
  match w.station? with
  | some s =>
    .obj ([("enabled", .bool s.registry.settings.enabled),
      ("filters", .nat s.registry.filters.length)] ++ s.listenerStatus ++
      s.deliveryStatus w.engine.epoch)
  | none => .obj [("enabled", .bool false), ("filters", .int 0)]

end Watcher

end FeedWatch
