import FeedWatch.Proofs.Engine.Queue
import FeedWatch.Watcher

/-!
# What turns leave alone

Most of what the engine does is about the connection, the tasks and the schedule.  `Engine.base` is
the engine without these: the disk, the network, the registries and the pipelines, whether listeners
run, and the stage of stopping.  What a task does in its turn leaves it alone, but for handling a
frame and looking at the settings file.  `Engine.ground` leaves out in addition what starting and
stopping are about.  There is one lemma for each function of the engine.

Main statements: a turn of a task leaves the base as it was, or as handling a frame or looking at
the settings file leaves it (`base_runTask`), and so does any call with the ground (`ground_make`).
-/

namespace FeedWatch

/-! ## Starting -/

namespace Watcher

variable {w w' : Watcher} {index : ReferenceIndex} {session : Session} {disk : Disk}

/-- The engine once everything is started with a registry. -/
def startOn (session : Session) (w : Watcher) : Engine :=
  let e := w.engine
  let pipeline := Pipeline.start w.setup.pages (.service w.setup.playerTemplate false)
    (.webhook (.ofUrl (Engine.webhookUrl session.registry))) e.network
  let k := e.stations.length
  let e := e.addStation session pipeline
  let e := { e with stamp := e.store.stamp? e.disk }
  (e.startListener k).startRefresher k

lemma startWith_of_openOn (hopen : Session.openOn w.engine.store index w.engine.disk
    w.engine.nextSerial = (disk, .ok session)) :
    w.startWith index = ({ w with engine := w.startOn session }, .ok ()) := by
  rw [startWith, hopen]
  rfl

/-- Everything is started with the registry that was opened, or opening it failed. -/
lemma startWith_cases (index : ReferenceIndex) (w : Watcher) :
    (∃ disk session, Session.openOn w.engine.store index w.engine.disk w.engine.nextSerial =
        (disk, .ok session) ∧
      w.startWith index = ({ w with engine := w.startOn session }, .ok ())) ∨
    ∃ disk failure, w.startWith index =
      ({ w with engine := { w.engine with disk } }, .error (.registry failure)) := by
  obtain ⟨⟨disk, result⟩, hopen⟩ : ∃ r, Session.openOn w.engine.store index w.engine.disk
    w.engine.nextSerial = r := ⟨_, rfl⟩
  cases result with
  | ok session => exact .inl ⟨disk, session, hopen, startWith_of_openOn hopen⟩
  | error failure =>
    refine .inr ⟨disk, failure, ?_⟩
    rw [startWith, hopen]

end Watcher

/-- A station without its connection. -/
def Station.base (s : Station) : Station :=
  { s with listener := { Listener.initial with running := s.listener.running } }

/-- A station without its listener. -/
def Station.ground (s : Station) : Station := { s with listener := .initial }

namespace Engine

/-- The engine without connections, tasks and schedule. -/
def base (e : Engine) : Engine :=
  { e with
    schedule := .start, feed := .ofScript [], stations := e.stations.map Station.base, tasks := []
    nextTask := 0, isRequested := false, interrupted := false }

/-- The engine without what starting and stopping are about. -/
def ground (e : Engine) : Engine :=
  { e.base with
    stations := e.base.stations.map Station.ground, refresher := none, stopping := none
    failure := none, isAwake := false }

variable {e e' : Engine} {k : Nat} {id : TaskId}

lemma ground_of_base (h : e'.base = e.base) : e'.ground = e.ground := by
  rw [ground, h, ground]

lemma network_of_ground (h : e'.ground = e.ground) : e'.network = e.network := by
  have hnetwork := congrArg Engine.network h
  exact hnetwork

lemma stations_ground (e : Engine) : e.ground.stations = e.stations.map Station.ground := by
  show (e.stations.map Station.base).map Station.ground = _
  rw [List.map_map]
  rfl

/-! ## Stations -/

/-- The newest station is the last one. -/
lemma newest?_of_getLast? {s : Station} (hlast : e.stations.getLast? = some s) :
    e.newest? = some (e.stations.length - 1) := by
  have hne : e.stations ≠ [] := by
    rintro hnil
    rw [hnil] at hlast
    cases hlast
  simp [newest?, hne]

/-- A change of a station that leaves alone what is kept of it. -/
lemma map_modify {β : Type} {g : Station → β} {f : Station → Station}
    (hf : ∀ s, e.stations[k]? = some s → g (f s) = g s) :
    (e.stations.modify k f).map g = e.stations.map g := by
  refine List.ext_getElem? fun n => ?_
  rw [List.getElem?_map, List.getElem?_modify, List.getElem?_map]
  cases hn : e.stations[n]? with
  | none => rfl
  | some s =>
    by_cases hk : k = n
    · simp [hk, hf s (hk ▸ hn)]
    · simp [hk]

lemma base_alterStation {f : Station → Station}
    (hf : ∀ s, e.stations[k]? = some s → (f s).base = s.base) :
    (e.alterStation k f).base = e.base := by
  rw [base, alterStation, map_modify hf]
  rfl

@[simp]
lemma base_alterListener {f : Listener → Listener} (hf : ∀ l, (f l).running = l.running) (k : Nat)
    (e : Engine) : (e.alterListener k f).base = e.base := by
  refine base_alterStation fun s _ => ?_
  rw [Station.base, Station.base, hf]

lemma ground_alterStation {f : Station → Station}
    (hf : ∀ s, e.stations[k]? = some s → (f s).ground = s.ground) :
    (e.alterStation k f).ground = e.ground := by
  have hstations : (e.alterStation k f).ground.stations = e.ground.stations := by
    rw [stations_ground, stations_ground, alterStation, map_modify hf]
  exact congrArg (fun stations => { e.ground with stations }) hstations

@[simp]
lemma ground_alterListener (k : Nat) (f : Listener → Listener) (e : Engine) :
    (e.alterListener k f).ground = e.ground :=
  ground_alterStation fun _ _ => rfl

/-! ## Tasks -/

@[simp]
lemma base_feed (feed : Feed) (e : Engine) : base { e with feed } = e.base := rfl

@[simp]
lemma base_spawn (k : Nat) (work : Work) (e : Engine) : (e.spawn k work).base = e.base := rfl

@[simp]
lemma base_await (id : TaskId) (work : Work) (wait : Wait) (e : Engine) :
    (e.await id work wait).base = e.base := rfl

@[simp]
lemma base_awaitTime (id : TaskId) (work : Work) (delay : Binary64) (e : Engine) :
    (e.awaitTime id work delay).base = e.base := by
  rw [awaitTime]
  split_ifs
  · rfl
  · rfl

@[simp]
lemma base_wake (p : Task → Bool) (e : Engine) : (e.wake p).base = e.base := rfl

@[simp]
lemma base_cancel (id : TaskId) (e : Engine) : (e.cancel id).base = e.base := rfl

@[simp]
lemma base_enqueue (c : Call) (e : Engine) : (e.enqueue c).base = e.base := rfl

@[simp]
lemma base_finishTask (id : TaskId) (e : Engine) : (e.finishTask id).base = e.base := rfl

@[simp]
lemma base_endCancelled (t : Task) (e : Engine) : (e.endCancelled t).base = e.base := by
  rw [endCancelled]
  cases t.timer with
  | none => rfl
  | some _ => rfl

/-! ## The connection -/

@[simp]
lemma base_scheduleReconnect (k : Nat) (e : Engine) : (e.scheduleReconnect k).base = e.base := by
  rw [scheduleReconnect]
  split_ifs
  · rfl
  · simp

@[simp]
lemma base_dropConnection (k : Nat) (e : Engine) : (e.dropConnection k).base = e.base := by
  obtain ⟨tasks, schedule, h⟩ := exists_dropHeartbeat k e
  refine (base_alterListener (fun _ => ?_) k _).trans ?_
  · rfl
  · rw [h]
    rfl

@[simp]
lemma base_disconnected (k : Nat) (e : Engine) : (e.disconnected k).base = e.base := by
  rw [disconnected_eq]
  split_ifs
  · rw [base_scheduleReconnect, base_dropConnection]
  · exact base_dropConnection k e

@[simp]
lemma base_takeFrame (k : Nat) (p : Payload) (e : Engine) : (e.takeFrame k p).base = e.base := by
  rw [takeFrame]
  split_ifs
  · simp
  · simp

@[simp]
lemma base_closed (k : Nat) (id : TaskId) (failure : Option Failure) (e : Engine) :
    (e.closed k id failure).base = e.base := by
  rw [closed.eq_def]
  split
  · rfl
  · rw [base_finishTask, base_disconnected]

@[simp]
lemma base_endConnection (k : Nat) (id : TaskId) (socket : Nat) (e : Engine) :
    (e.endConnection k id socket).base = e.base := by
  rw [endConnection]
  dsimp only
  split_ifs
  · rw [base_closed, base_feed]
  · rw [base_awaitTime, base_feed]

@[simp]
lemma base_readFrom (k : Nat) (id : TaskId) (socket fuel : Nat) (e : Engine) :
    (e.readFrom k id socket fuel).base = e.base := by
  induction fuel generalizing e with
  | zero => rfl
  | succ fuel ih =>
    rw [readFrom]
    split
    · rfl
    · dsimp only
      split
      · rw [ih, base_takeFrame, base_feed]
      · rw [ih, base_feed]
      · rw [base_endConnection, base_feed]
      · rw [base_endConnection, base_feed]
      · rw [base_endConnection, base_feed]

@[simp]
lemma base_read (k : Nat) (id : TaskId) (socket : Nat) (e : Engine) :
    (e.read k id socket).base = e.base := base_readFrom k id socket _ e

@[simp]
lemma base_connected (k : Nat) (id : TaskId) (a : Attempt) (e : Engine) :
    (e.connected k id a).base = e.base := by
  rw [connected]
  split
  · rw [base_finishTask, base_disconnected]
  · dsimp only
    rw [base_read, base_spawn, base_alterListener, base_feed]
    exact fun _ => rfl

@[simp]
lemma base_connect (k : Nat) (id : TaskId) (e : Engine) : (e.connect k id).base = e.base := by
  rw [connect]
  dsimp only
  split_ifs
  · simp
  · simp

@[simp]
lemma base_sent (id : TaskId) (socket : Nat) (failure : Option Failure) (e : Engine) :
    (e.sent id socket failure).base = e.base := by
  rw [sent]
  split_ifs
  · rfl
  · rw [base_awaitTime]

@[simp]
lemma base_beat (id : TaskId) (socket : Nat) (e : Engine) : (e.beat id socket).base = e.base := by
  rw [beat]
  dsimp only
  split_ifs
  · rw [base_sent, base_feed]
  · rw [base_awaitTime, base_feed]

@[simp]
lemma base_reconnect (k : Nat) (id : TaskId) (e : Engine) : (e.reconnect k id).base = e.base := by
  rw [reconnect, base_finishTask]
  split_ifs
  · simp
  · simp

/-! ## Frames -/

@[simp]
lemma base_finishFrame (k : Nat) (id : TaskId) (e : Engine) :
    (e.finishFrame k id).base = e.base := by
  rw [finishFrame]
  split_ifs
  · rfl
  · rfl

@[simp]
lemma base_settled (k : Nat) (id : TaskId) (e : Engine) : (e.settled k id).base = e.base := by
  rw [settled]
  simp

/-- The engine once a station has the pipeline that handling a frame leaves, and the network is what
handling it leaves. -/
def handled (k : Nat) (s : Station)
    (handle : Registry → Int → Nat → Pipeline → Pipeline × Progress) (e : Engine) : Engine :=
  let p := (handle s.registry e.epoch e.micros { s.pipeline with network := e.network }).1
  { e with network := p.network }.alterStation k fun s => { s with pipeline := p }

/-- Handling a frame goes on at a station, if there is one. -/
lemma base_progress (k : Nat) (id : TaskId)
    (handle : Registry → Int → Nat → Pipeline → Pipeline × Progress) (e : Engine) :
    (e.progress k id handle).base = e.base ∨
      ∃ s, e.stations[k]? = some s ∧
        (e.progress k id handle).base = (e.handled k s handle).base := by
  cases hs : e.stations[k]? with
  | none =>
    left
    rw [progress, hs]
    rfl
  | some s =>
    refine .inr ⟨s, rfl, ?_⟩
    rw [progress, hs, handled]
    dsimp only
    generalize handle s.registry e.epoch e.micros { s.pipeline with network := e.network } = r
    obtain ⟨p, progress⟩ := r
    cases progress with
    | wait delay stage =>
      dsimp only
      rw [base_awaitTime]
    | done result =>
      dsimp only
      split
      · exact base_finishFrame k id _
      · exact base_finishFrame k id _

@[simp]
lemma base_watch (id : TaskId) (e : Engine) : (e.watch id).base = e.base := by
  rw [watch]
  split_ifs
  · rfl
  · rfl

/-! ## Turns -/

/-- What a task leaves when it goes on with a frame at its station. -/
def Handles (t : Task) (e e' : Engine) : Prop :=
  ∃ s handle, e.stations[t.station]? = some s ∧ e' = e.handled t.station s handle ∧
    ((∃ p, t.work = .receive p ∧ handle = fun registry epoch now pipeline =>
        pipeline.receive registry epoch now p) ∨
      ∃ stage, t.work = .resume stage ∧ handle = fun registry epoch now pipeline =>
        pipeline.resume registry epoch now stage)

/-- A turn of a task other than the party outside leaves the base alone, unless it handles a frame
or looks at the settings file. -/
lemma base_runTask {t : Task} (hwork : t.cancelled = false → t.work ≠ .outside) :
    (e.runTask t).base = e.base ∨ (∃ e', Handles t e e' ∧ (e.runTask t).base = e'.base) ∨
      (t.work = .refresh ∧ (e.runTask t).base = e.refresh.1.base) := by
  rw [runTask]
  split_ifs with hcancelled
  · left
    dsimp only
    split
    · rw [base_enqueue, base_endCancelled]
    · rw [base_endCancelled]
  · cases hw : t.work with
    | outside => exact absurd hw (hwork (Bool.eq_false_iff.2 hcancelled))
    | refresh => exact .inr (.inr ⟨rfl, base_awaitTime _ _ _ _⟩)
    | receive p =>
      refine (base_progress t.station t.id _ e).imp_right fun ⟨s, hs, hbase⟩ => .inl ?_
      exact ⟨_, ⟨s, _, hs, rfl, .inl ⟨p, hw, rfl⟩⟩, hbase⟩
    | resume stage =>
      refine (base_progress t.station t.id _ e).imp_right fun ⟨s, hs, hbase⟩ => .inl ?_
      exact ⟨_, ⟨s, _, hs, rfl, .inr ⟨stage, hw, rfl⟩⟩, hbase⟩
    | pause =>
      left
      dsimp only
      split
      · exact base_awaitTime _ _ _ _
      · rfl
    | _ =>
      left
      simp

/-! ## Who steers -/

/-- What the party outside steers: the look at the settings file, the stage of stopping and what it
failed with, whether the party is awake, and which listeners run. -/
structure Helm where
  refresher : Option TaskId
  stopping : Option Stopping
  failure : Option Failure
  isAwake : Bool
  running : List Bool

/-- What the party outside steers. -/
def helm (e : Engine) : Helm :=
  ⟨e.refresher, e.stopping, e.failure, e.isAwake, e.stations.map (·.listener.running)⟩

lemma helm_base (e : Engine) : e.base.helm = e.helm := by
  have hrunning : e.base.stations.map (·.listener.running) =
      e.stations.map (·.listener.running) := List.map_map
  rw [helm, hrunning]
  rfl

lemma helm_of_base (h : e'.base = e.base) : e'.helm = e.helm := by
  rw [← helm_base, h, helm_base]

lemma running_eq (k : Nat) (e : Engine) :
    (e.listener k).running = (e.helm.running[k]?).getD false := by
  rw [helm, listener, List.getElem?_map]
  cases e.stations[k]? with
  | none => rfl
  | some s => rfl

lemma running_of_helm (h : e'.helm = e.helm) (k : Nat) :
    (e'.listener k).running = (e.listener k).running := by
  rw [running_eq, h, running_eq]

lemma helm_alterStation {f : Station → Station} (hf : ∀ s, (f s).listener = s.listener) (k : Nat)
    (e : Engine) : (e.alterStation k f).helm = e.helm := by
  have hrunning : (e.stations.modify k f).map (·.listener.running) =
      e.stations.map (·.listener.running) := map_modify fun s _ => by rw [hf]
  rw [helm, alterStation, hrunning]
  rfl

lemma Handles.helm {t : Task} (h : Handles t e e') : e'.helm = e.helm := by
  obtain ⟨s, handle, -, rfl, -⟩ := h
  refine (helm_alterStation (fun _ => ?_) t.station _).trans ?_
  · rfl
  · rfl

lemma helm_keep (k : Nat) (s : Session) (e : Engine) : (e.keep k s).helm = e.helm := by
  refine (helm_alterStation (fun _ => ?_) k _).trans ?_
  · rfl
  · rfl

lemma helm_refresh (e : Engine) : e.refresh.1.helm = e.helm := by
  rw [refresh]
  dsimp only
  split
  · split_ifs
    · rfl
    · split
      · exact helm_keep _ _ e
      · refine (helm_alterStation (fun s => ?_) _ _).trans (helm_keep _ _ e)
        split
        · rfl
        · rfl
  · rfl

/-- A look at the settings file leaves alone everything but registries, addresses and the stamp. -/
lemma refresh_leaves (e : Engine) : e.refresh.1.tasks = e.tasks ∧
    e.refresh.1.schedule = e.schedule ∧ e.refresh.1.nextTask = e.nextTask ∧
    e.refresh.1.feed = e.feed ∧ e.refresh.1.network = e.network := by
  rw [refresh]
  dsimp only
  split
  · split_ifs
    · exact ⟨rfl, rfl, rfl, rfl, rfl⟩
    · split
      · exact ⟨rfl, rfl, rfl, rfl, rfl⟩
      · exact ⟨rfl, rfl, rfl, rfl, rfl⟩
  · exact ⟨rfl, rfl, rfl, rfl, rfl⟩

/-- Only the party outside steers. -/
lemma helm_runTask {t : Task} (hwork : t.cancelled = false → t.work ≠ .outside) :
    (e.runTask t).helm = e.helm := by
  obtain hbase | ⟨e', hhandles, hbase⟩ | ⟨-, hbase⟩ := base_runTask (e := e) hwork
  · exact helm_of_base hbase
  · exact (helm_of_base hbase).trans hhandles.helm
  · exact (helm_of_base hbase).trans (helm_refresh e)

/-! ## Stopping -/

@[simp]
lemma ground_feed (feed : Feed) (e : Engine) : ground { e with feed } = e.ground := rfl

@[simp]
lemma ground_endStop (failure : Option Failure) (e : Engine) :
    (e.endStop failure).ground = e.ground := rfl

@[simp]
lemma ground_leaveSession (k : Nat) (e : Engine) : (e.leaveSession k).ground = e.ground := by
  rw [leaveSession, ground_endStop, ground_alterListener, ground_feed]

@[simp]
lemma ground_drain (k : Nat) (e : Engine) : (e.drain k).ground = e.ground := by
  rw [drain]
  dsimp only
  split_ifs
  · exact ground_leaveSession k e
  · have hfold : ∀ (ids : List TaskId) (e : Engine),
        (ids.foldl (fun e id => e.enqueue (.gathered id)) e).ground = e.ground := by
      intro ids
      induction ids with
      | nil => exact fun _ => rfl
      | cons i ids ih => exact fun e => ih _
    exact hfold _ e

@[simp]
lemma ground_socketClosed (k : Nat) (failure : Option Failure) (e : Engine) :
    (e.socketClosed k failure).ground = e.ground := by
  rw [socketClosed.eq_def]
  split
  · rfl
  · rw [ground_drain, ground_alterListener]

@[simp]
lemma ground_closeSocket (k : Nat) (e : Engine) : (e.closeSocket k).ground = e.ground := by
  rw [closeSocket.eq_def]
  split
  · exact ground_drain k e
  · dsimp only
    split_ifs
    · rw [ground_socketClosed, ground_feed]
    · have hawaits : ∀ e₁ : Engine, e₁.ground = e.ground → ∀ delay,
          (e₁.awaitTime outside .outside delay).ground = e.ground :=
        fun e₁ h delay => (ground_of_base (base_awaitTime outside .outside delay e₁)).trans h
      exact hawaits { e with feed := (e.feed.close _).1 } rfl _

@[simp]
lemma ground_cancelNext (k : Nat) (ids : List TaskId) (e : Engine) :
    (e.cancelNext k ids).ground = e.ground := by
  induction ids with
  | nil => rw [cancelNext, closeAndDrain, ground_closeSocket, ground_alterListener]
  | cons i ids ih =>
    rw [cancelNext]
    split_ifs
    · rfl
    · exact ih

@[simp]
lemma ground_stopListening (k : Nat) (e : Engine) : (e.stopListening k).ground = e.ground := by
  rw [stopListening]
  split_ifs
  · rw [ground_cancelNext, ground_alterListener]
  · rfl

@[simp]
lemma ground_stopWatching (e : Engine) : e.stopWatching.ground = e.ground := by
  rw [stopWatching]
  split
  · split_ifs
    · rfl
    · exact ground_stopListening _ _
  · exact ground_stopListening _ e
  · rfl

@[simp]
lemma ground_wakeOutside (e : Engine) : e.wakeOutside.ground = e.ground := by
  rw [wakeOutside.eq_def]
  dsimp only
  split
  · rfl
  · exact ground_stopListening _ _
  · exact ground_cancelNext _ _ e
  · exact ground_socketClosed _ _ e
  · exact ground_leaveSession _ e

@[simp]
lemma ground_startListener (k : Nat) (e : Engine) : (e.startListener k).ground = e.ground := by
  rw [startListener]
  split_ifs
  · rfl
  · rw [ground_of_base (base_spawn k .connect _), ground_alterListener]

@[simp]
lemma ground_startRefresher (k : Nat) (e : Engine) : (e.startRefresher k).ground = e.ground := rfl

/-! ## Calls -/

/-- A turn of any task leaves the ground alone, unless it handles a frame or looks at the settings
file. -/
lemma ground_runTask (t : Task) (e : Engine) : (e.runTask t).ground = e.ground ∨
    (t.cancelled = false ∧ ∃ e', Handles t e e' ∧ (e.runTask t).ground = e'.ground) ∨
      (e.runTask t).ground = e.refresh.1.ground := by
  by_cases hwork : t.cancelled = false ∧ t.work = .outside
  · left
    rw [runTask, if_neg (Bool.eq_false_iff.1 hwork.1), hwork.2]
    exact ground_wakeOutside e
  · cases hcancelled : t.cancelled with
    | true =>
      left
      rw [runTask, if_pos hcancelled]
      dsimp only
      split
      · exact ground_of_base (base_endCancelled t e)
      · exact ground_of_base (base_endCancelled t e)
    | false =>
      obtain hbase | ⟨e', hhandles, hbase⟩ | ⟨-, hbase⟩ :=
        base_runTask (t := t) (e := e) fun hgoing hout => hwork ⟨hgoing, hout⟩
      · exact .inl (ground_of_base hbase)
      · exact .inr (.inl ⟨rfl, e', hhandles, ground_of_base hbase⟩)
      · exact .inr (.inr (ground_of_base hbase))

/-- A call leaves the ground alone, unless a task handles a frame or looks at the settings file. -/
theorem ground_make (c : Call) (e : Engine) : (e.make c).ground = e.ground ∨
    (∃ i t e', c = .turn i ∧ e.task? i = some t ∧ t.cancelled = false ∧ Handles t e e' ∧
      (e.make c).ground = e'.ground) ∨
      (e.make c).ground = e.refresh.1.ground := by
  cases c with
  | turn i =>
    rw [make]
    cases ht : e.task? i with
    | none => exact .inl rfl
    | some t =>
      refine (ground_runTask t e).imp_right (Or.imp_left ?_)
      rintro ⟨hgoing, e', hhandles, hground⟩
      exact ⟨i, t, e', rfl, ht, hgoing, hhandles, hground⟩
  | alarm a =>
    left
    cases a with
    | ring _ _ => rfl
    | release => rfl
    | request => rfl
  | settled k i => exact .inl (ground_of_base (base_settled k i e))
  | gathered i => exact .inl rfl

end Engine

end FeedWatch
