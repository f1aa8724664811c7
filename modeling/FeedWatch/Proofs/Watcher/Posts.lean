import FeedWatch.Proofs.Pipeline.Outcome
import FeedWatch.Proofs.Watcher.Agreement
import FeedWatch.Proofs.Watcher.Flights

/-!
# When alerts are posted

Whether alerts are on is looked at once for each frame, at the moment when its handling begins.  The
look-up of the owner, the attempts to post the alert and the pauses between them come later, and the
settings may have changed by then.

Main statement: while alerts are off at a station, its frames post nothing but what belongs to a
frame that was in flight when alerts were switched off (`Course.on_of_post`).  Such a frame does
post its alert (`Course.posts_when_off`).
-/

namespace FeedWatch

open Relation

/-- The alerts that were posted, or tried to. -/
def Http.Network.posts (net : Http.Network) : List Http.Request :=
  net.log.filter (·.method == "POST")

lemma Http.Network.posts_get (url : Option String) (body : Option Json) (time : Nat)
    (net : Http.Network) : (net.request "GET" url body time).1.posts = net.posts := by
  show (net.log ++ [_]).filter _ = _
  rw [List.filter_append]
  simp [posts]

/-- A station whose alerts are off does nothing with a frame. -/
lemma Pipeline.receive_of_disabled {registry : Registry} (h : registry.settings.enabled = false)
    (epoch : Int) (now : Nat) (payload : Payload) (p : Pipeline) :
    ∃ p', p.receive registry epoch now payload = (p', .done (.ok none)) ∧
      p'.network = p.network := by
  rw [receive]
  dsimp only
  split_ifs with hheartbeat hoff
  · exact ⟨_, rfl, rfl⟩
  · exact ⟨_, rfl, rfl⟩
  · rw [h] at hoff
    exact absurd rfl hoff

namespace Engine

variable {e e' e₀ : Engine} {late : List TaskId}

/-- Whether alerts are on at a station. -/
def isOn (k : Nat) (e : Engine) : Bool := e.stations[k]?.any (·.registry.settings.enabled)

lemma isOn_of_books (h : e'.books = e.books) (k : Nat) : e'.isOn k = e.isOn k := by
  have hdesks : ∀ e : Engine, e.isOn k = e.books.desks[k]?.any (·.registry.settings.enabled) := by
    intro e
    rw [books, List.getElem?_map, isOn]
    cases e.stations[k]? with
    | none => rfl
    | some s => rfl
  rw [hdesks, h, ← hdesks]

lemma isOn_of_station {k : Nat} {s : Station} (hs : e.stations[k]? = some s) :
    e.isOn k = s.registry.settings.enabled := by
  rw [isOn, hs]
  rfl

/-! ## Turns -/

/-- A look at the settings file has nothing to do with the network. -/
lemma network_takeOver (stamp : Option Nat) (e : Engine) :
    (e.takeOver stamp).1.network = e.network := by
  rw [takeOver]
  split
  · split_ifs
    · rfl
    · split
      · rfl
      · rfl
  · rfl

/-- Only handling a frame has to do with the network. -/
lemma network_make (c : Call) (e : Engine) : (e.make c).network = e.network ∨
    ∃ t e', c = .turn t.id ∧ e.task? t.id = some t ∧ t.cancelled = false ∧ Handles t e e' ∧
      (e.make c).network = e'.network := by
  obtain hground | ⟨i, t, e', rfl, ht, hgoing, hhandles, hground⟩ | hground := ground_make c e
  · exact .inl (network_of_ground hground)
  · obtain rfl := id_of_task? ht
    exact .inr ⟨t, e', rfl, ht, hgoing, hhandles, network_of_ground hground⟩
  · exact .inl ((network_of_ground hground).trans (network_takeOver _ e))

/-! ## Runs -/

/-- What a watcher does and what happens to it: a call is made, at any time, the schedule is another
one, a task waits for the next look at the settings file, or the party outside for a time; the
watcher is started with a registry, stopped, or closes its clients; something arrives; a registry is
worked with; the settings file is looked at, perhaps while others change the disk; the reference is
fetched; the feed, the replies of the network and the disk change. -/
inductive Move (e : Engine) : Engine → Prop
  | call (c : Call) : Move e (e.make c)
  | plan (schedule : Schedule) : Move e { e with schedule }
  | rest (i : TaskId) (delay : Binary64) : Move e (e.awaitTime i .refresh delay)
  | sleep (delay : Binary64) : Move e { e.awaitTime outside .outside delay with isAwake := false }
  | start {index : ReferenceIndex} {session : Session} {disk : Disk} (pipeline : Pipeline)
    (stamp : Option Nat)
    (hopen : Session.openOn e.store index e.disk e.nextSerial = (disk, .ok session)) :
    Move e (({ e.addStation session pipeline with stamp }.startListener
      e.stations.length).startRefresher e.stations.length)
  | stop : Move e ({ e with failure := none }.stopWatching)
  | closeClients : Move e (Watcher.closeClients e)
  | arrive (a : Arrival) : Move e (e.arrive a)
  | operate {α : Type} {k : Nat} {s : Station} (f : Session → Session × α)
    (hs : e.stations[k]? = some s) : Move e (e.operate k s f).1
  | look (disk : Disk) : Move e (e.refreshAmid disk).1
  | fetch (url : Option String) (body : Option Json) :
    Move e { e with network := (e.network.request "GET" url body e.micros).1 }
  | world (feed : Feed) (network : Http.Network) (disk : Disk)
    (hlog : network.log = e.network.log) : Move e { e with feed, network, disk }

/-- The frames in flight at stations at which alerts are switched off. -/
def overtakenBy (e e' : Engine) : List TaskId :=
  (e.tasks.filter fun t =>
    t.work.isInFlight && e.isOn t.station && !e'.isOn t.station).map Task.id

/-- A run of a watcher, with the frames that were in flight when alerts were switched off. -/
inductive Course (e₀ : Engine) : List TaskId → Engine → Prop
  | start : Course e₀ [] e₀
  | move {late : List TaskId} {e e' : Engine} :
    Course e₀ late e →
    Move e e' →
    Course e₀ (late ++ e.overtakenBy e') e'

/-! ## What a watcher does is a run -/

lemma Course.trans {late : List TaskId} (hrun : Course e₀ late e)
    (hmoves : ReflTransGen Move e e') : ∃ late', Course e₀ (late ++ late') e' := by
  induction hmoves with
  | refl => exact ⟨[], by rwa [List.append_nil]⟩
  | tail _ hmove ih =>
    obtain ⟨late', hrun'⟩ := ih
    exact ⟨_, List.append_assoc .. ▸ hrun'.move hmove⟩

lemma moves_scheduled (h : ReflTransGen Scheduled e e') : ReflTransGen Move e e' := by
  refine h.lift' id fun e e' hstep => ?_
  obtain ⟨c, schedule, rfl⟩ := hstep.eq_make
  exact (ReflTransGen.single (.plan schedule)).tail (.call c)

lemma moves_sleep (delay : Binary64) (e : Engine) : ReflTransGen Move e (e.sleep delay) :=
  .head (.sleep delay) (moves_scheduled (scheduled_run _))

/-- Time that passes is a run. -/
theorem moves_advance (span : Nat) (e : Engine) : ReflTransGen Move e (e.advance span) :=
  (moves_sleep _ e).trans (moves_scheduled (scheduled_settle _))

end Engine

namespace Watcher

open Engine

lemma moves_fetchIndex (w : Watcher) : ReflTransGen Move w.engine w.fetchIndex.1.engine := by
  have hclose : ∀ e : Engine, Move e { e with network := e.network.close true } :=
    fun e => .world e.feed (e.network.close true) e.disk rfl
  rw [fetchIndex]
  refine .tail (.head (.fetch (some w.setup.referenceUrl) none) ?_) (hclose _)
  split_ifs
  · exact .refl
  · exact moves_sleep _ _

lemma moves_startWith (index : ReferenceIndex) (w : Watcher) :
    ReflTransGen Move w.engine (w.startWith index).1.engine := by
  obtain ⟨disk, session, hopen, hstart⟩ | ⟨disk, failure, hstart⟩ := startWith_cases index w
  · rw [hstart]
    exact .single (.start _ _ hopen)
  · rw [hstart]
    exact .single (.world w.engine.feed w.engine.network disk rfl)

/-- Starting a watcher is a run. -/
theorem moves_start (index : Option ReferenceIndex) (w : Watcher) :
    ReflTransGen Move w.engine (w.start index).1.engine := by
  cases index with
  | some index => exact moves_startWith index w
  | none =>
    have hfetch := moves_fetchIndex w
    rw [start]
    split
    next w' e heq =>
      rw [heq] at hfetch
      exact hfetch
    next w' index heq =>
      rw [heq] at hfetch
      exact hfetch.trans (moves_startWith index w')

/-- Stopping a watcher is a run. -/
theorem moves_stop (w : Watcher) : ReflTransGen Move w.engine w.stop.1.engine := by
  have hrun : ReflTransGen Move w.engine ({ w.engine with failure := none }.stopWatching).run :=
    .head .stop (moves_scheduled (scheduled_run _))
  rw [stop]
  dsimp only
  split
  next => exact hrun
  next => exact hrun.tail .closeClients

/-- A look at the settings file is a run. -/
theorem moves_refresh (w : Watcher) : ReflTransGen Move w.engine w.refresh.1.engine :=
  .single (.look w.engine.disk)

end Watcher

namespace Engine

variable {e e' e₀ : Engine} {late : List TaskId}

/-! ## Frames in flight are late, or alerts are on -/

/-- Tasks have numbers of their own, and frames in flight are late or alerts are on at their
stations. -/
structure Watchful (late : List TaskId) (e : Engine) : Prop where
  listed : e.Listed
  flights : ∀ t ∈ e.tasks, t.work.isInFlight = true → t.id ∈ late ∨ e.isOn t.station = true

/-- What brings into flight only frames of stations at which alerts are on leaves all others
late. -/
lemma Watchful.step (h : Watchful late e)
    (hcalm : Calm (fun j k => j ∈ late ∨ e'.isOn k = true) e e') :
    Watchful (late ++ e.overtakenBy e') e' := by
  refine ⟨hcalm.listed h.listed, fun t' ht' hflight => ?_⟩
  obtain ⟨t, ht, hid, hstation, hflight'⟩ | hlate | hon := hcalm.flights t' ht' hflight
  · rw [← hid, ← hstation]
    obtain hlate | hon := h.flights t ht hflight'
    · exact .inl (List.mem_append_left _ hlate)
    · cases hoff : e'.isOn t.station with
      | true => exact .inr rfl
      | false =>
        refine .inl (List.mem_append_right _ (List.mem_map.2 ⟨t, List.mem_filter.2 ⟨ht, ?_⟩, rfl⟩))
        rw [hflight', hon, hoff]
        rfl
  · exact .inl (List.mem_append_left _ hlate)
  · exact .inr hon

lemma Calm.closeClients {begun : TaskId → Nat → Prop} (e : Engine) :
    Calm begun e (Watcher.closeClients e) := by
  cases hlast : e.stations.getLast? with
  | none =>
    rw [closeClients_of_none hlast]
    exact .same rfl rfl
  | some s =>
    rw [closeClients_eq hlast]
    exact .same rfl rfl

lemma Calm.refreshAmid {begun : TaskId → Nat → Prop} (disk : Disk) (e : Engine) :
    Calm begun e (e.refreshAmid disk).1 := by
  rw [Engine.refreshAmid, takeOver]
  split
  · split_ifs
    · exact .same rfl rfl
    · split
      · exact .same rfl rfl
      · exact .same rfl rfl
  · exact .same rfl rfl

/-- What is begun when the handling of a frame goes on, of which there is one. -/
lemma Watchful.calm_progress {t : Task}
    {handle : Registry → Int → Nat → Pipeline → Pipeline × Progress} (h : Watchful late e)
    (ht : t ∈ e.tasks)
    (hhandle : (∃ p, t.work = .receive p ∧ handle = fun registry epoch now pipeline =>
        pipeline.receive registry epoch now p) ∨
      ∃ stage, t.work = .resume stage ∧ handle = fun registry epoch now pipeline =>
        pipeline.resume registry epoch now stage) :
    Calm (fun j k => j ∈ late ∨ (e.progress t.station t.id handle).isOn k = true) e
      (e.progress t.station t.id handle) := by
  have hbooks : (e.progress t.station t.id handle).books = e.books := by
    obtain hbase | ⟨s, hs, hbase⟩ := base_progress t.station t.id handle e
    · exact books_of_base hbase
    · exact (books_of_base hbase).trans (Handles.books ⟨s, handle, hs, rfl, hhandle⟩)
  refine ((Works.progress t.station t.id handle e).mono (fun _ => id) ?_).calm
  rintro j k ⟨rfl, ⟨t', ht', hid, rfl⟩, s, p, delay, stage, hs, hwaits⟩
  rw [h.listed.eq ht' ht hid, isOn_of_books hbooks]
  obtain ⟨payload, -, rfl⟩ | ⟨stage', hwork, -⟩ := hhandle
  · right
    rw [isOn_of_station hs]
    cases hon : s.registry.settings.enabled with
    | true => rfl
    | false =>
      obtain ⟨p', hdone, -⟩ := Pipeline.receive_of_disabled hon e.epoch e.micros payload
        { s.pipeline with network := e.network }
      cases hwaits.symm.trans hdone
  · refine h.flights t ht ?_
    rw [hwork]
    rfl

lemma Watchful.calm_runTask {t : Task} (h : Watchful late e) (ht : t ∈ e.tasks) :
    Calm (fun j k => j ∈ late ∨ (e.runTask t).isOn k = true) e (e.runTask t) := by
  by_cases hwork : t.cancelled = false → t.work.isInFlight = false ∧ t.work.frame? = none
  · exact Calm.runTask e hwork
  · rw [Classical.not_imp] at hwork
    obtain ⟨hgoing, hframe⟩ := hwork
    rw [runTask, if_neg (Bool.eq_false_iff.1 hgoing)]
    cases hw : t.work with
    | receive p => exact h.calm_progress ht (.inl ⟨p, hw, rfl⟩)
    | resume stage => exact h.calm_progress ht (.inr ⟨stage, hw, rfl⟩)
    | _ =>
      rw [hw] at hframe
      exact absurd ⟨rfl, rfl⟩ hframe

lemma Watchful.calm_make (h : Watchful late e) (c : Call) :
    Calm (fun j k => j ∈ late ∨ (e.make c).isOn k = true) e (e.make c) := by
  cases c with
  | turn i =>
    rw [make]
    cases ht : e.task? i with
    | none => exact .same rfl rfl
    | some t => exact h.calm_runTask (mem_of_task? ht)
  | alarm a =>
    cases a with
    | ring i n => exact calm_wake _ e
    | release => exact calm_wake _ e
    | request => exact (Works.request e).calm
  | settled k i => exact .same rfl rfl
  | gathered i => exact (Works.gathered i e).calm

/-- Whatever happens leaves frames in flight late, or alerts on at their stations. -/
lemma Move.watchful (hmove : Move e e') (h : Watchful late e) :
    Watchful (late ++ e.overtakenBy e') e' := by
  refine h.step ?_
  cases hmove with
  | call c => exact h.calm_make c
  | plan schedule => exact .same rfl rfl
  | rest i delay => exact (Works.awaitTime i rfl delay e).calm
  | sleep delay => exact (Works.sleep delay e).calm
  | start _ _ _ =>
    refine Calm.trans ?_ ((Works.startListener _ _).trans (.startRefresher _ _)).calm
    exact .same rfl rfl
  | stop =>
    refine Calm.trans ?_ (Works.stopWatching _).calm
    exact .same rfl rfl
  | closeClients => exact .closeClients e
  | arrive a => exact (Works.arrive a e).calm
  | operate f hs => exact (Works.operate _ _ f e).calm
  | look disk => exact .refreshAmid disk e
  | fetch url body => exact .same rfl rfl
  | world feed network disk hlog => exact .same rfl rfl

/-! ## Posts -/

/-- Only the turn of a task that handles a frame posts something. -/
lemma Move.posts (hmove : Move e e') : e'.network.posts = e.network.posts ∨
    ∃ t e'', e' = e.make (.turn t.id) ∧ e.task? t.id = some t ∧ t.cancelled = false ∧
      Handles t e e'' ∧ e'.network = e''.network := by
  have hlog : ∀ {net net' : Http.Network}, net'.log = net.log → net'.posts = net.posts :=
    fun h => congrArg (List.filter _) h
  cases hmove with
  | call c =>
    obtain hnetwork | ⟨t, e'', rfl, ht, hgoing, hhandles, hnetwork⟩ := network_make c e
    · exact .inl (congrArg _ hnetwork)
    · exact .inr ⟨t, e'', rfl, ht, hgoing, hhandles, hnetwork⟩
  | rest i delay =>
    exact .inl (congrArg _ (network_of_ground (ground_of_base (base_awaitTime i _ delay e))))
  | sleep delay =>
    left
    have hnetwork := network_of_ground (ground_of_base (base_awaitTime outside .outside delay e))
    exact congrArg Http.Network.posts hnetwork
  | @start _ session _ pipeline stamp _ =>
    left
    have hnetwork := network_of_ground
      (ground_startListener e.stations.length { e.addStation session pipeline with stamp })
    exact congrArg Http.Network.posts hnetwork
  | stop =>
    left
    have hnetwork := network_of_ground (ground_stopWatching { e with failure := none })
    exact congrArg Http.Network.posts hnetwork
  | closeClients => exact .inl (hlog (log_closeClients e))
  | look disk => exact .inl (congrArg Http.Network.posts (network_takeOver _ _))
  | fetch url body => exact .inl (Http.Network.posts_get url body e.micros e.network)
  | world feed network disk h => exact .inl (hlog h)
  | plan schedule => exact .inl rfl
  | arrive a => exact .inl rfl
  | operate f hs => exact .inl rfl

/-- A run from the creation of a watcher on leaves frames in flight late, or alerts on. -/
lemma Course.watchful (h₀ : Watchful [] e₀) (hrun : Course e₀ late e) : Watchful late e := by
  induction hrun with
  | start => exact h₀
  | move _ hmove ih => exact hmove.watchful ih

lemma watchful_create (setup : WatcherSetup) (epoch : Int) (disk : Disk) (network : Http.Network)
    (feed : Feed) : Watchful [] (Watcher.create setup epoch disk network feed).engine := by
  refine ⟨⟨List.nodup_singleton _, fun t ht => ?_⟩, fun t ht hflight => ?_⟩
  · rw [List.mem_singleton.1 ht]
    exact Nat.zero_lt_one
  · rw [List.mem_singleton.1 ht] at hflight
    cases hflight

/-- Whatever a watcher does and whatever happens to it, something is posted only in the turn of a
task that handles a frame, and then alerts are on at the station of the frame, or the frame was in
flight when they were switched off there. -/
theorem Course.on_of_post {setup : WatcherSetup} {epoch : Int} {disk : Disk}
    {network : Http.Network} {feed : Feed}
    (hrun : Course (Watcher.create setup epoch disk network feed).engine late e)
    (hmove : Move e e') (hpost : e'.network.posts ≠ e.network.posts) :
    ∃ t s, e' = e.make (.turn t.id) ∧ e.task? t.id = some t ∧ e.stations[t.station]? = some s ∧
      (s.registry.settings.enabled = true ∨ t.id ∈ late) := by
  have h := hrun.watchful (watchful_create setup epoch disk network feed)
  obtain hsame | ⟨t, e'', rfl, ht, -, ⟨s, handle, hs, rfl, hhandle⟩, hnetwork⟩ := hmove.posts
  · exact absurd hsame hpost
  · refine ⟨t, s, rfl, ht, hs, ?_⟩
    obtain ⟨p, -, rfl⟩ | ⟨stage, hwork, -⟩ := hhandle
    · -- a frame whose handling begins is not handled at all while alerts are off
      left
      cases hon : s.registry.settings.enabled with
      | true => rfl
      | false =>
        obtain ⟨p', hdone, hsame⟩ := Pipeline.receive_of_disabled hon e.epoch e.micros p
          { s.pipeline with network := e.network }
        rw [hnetwork, handled, hdone] at hpost
        exact absurd (congrArg Http.Network.posts hsame) hpost
    · rw [← isOn_of_station hs]
      refine (h.flights t (mem_of_task? ht) ?_).symm
      rw [hwork]
      rfl

/-! ## A late alert -/

namespace Late

/-- Settings by which alerts go out for every item that has tokens. -/
def settings : Settings := ⟨true, [⟨Settings.firstFilter, .null⟩], "", some ⟨"1", "t", .null⟩⟩

/-- A disk with these settings. -/
def disk : Disk := Disk.empty.putFile ["a.json"] (Store.fileContent settings)

/-- A watcher at this disk, for which every look-up of an owner takes a second. -/
def created : Watcher :=
  .create {
      store := ⟨["a.json"], "!"⟩, timing := .standard, pages := .standard
      playerTemplate := Owner.defaultTemplate, referenceUrl := "" } 0 disk
    (.ofRoutes [("players", [⟨1000000, .error .timeout⟩])]) (.ofScript [])

/-- The filter of these settings. -/
def filters : List Filter := (Filter.compileAll .empty 0 settings.filters).toOption.getD []

/-- The registry that it opens. -/
def session : Session :=
  (Session.save ⟨⟨["a.json"], "!"⟩, .empty, disk, ⟨settings, filters⟩, filters.length⟩).1

/-- The watcher is started. -/
def started : Engine :=
  let pipeline := Pipeline.start .standard (.service Owner.defaultTemplate false)
    (.webhook (.ofUrl (webhookUrl session.registry))) created.engine.network
  let e := created.engine
  ({ e.addStation session pipeline with stamp := e.store.stamp? session.disk }.startListener
    0).startRefresher 0

/-- What is read off a frame. -/
def event : Event := ⟨[], ⟨"x", [], .empty, 0, none, none, some 5, none, "", .null, .null⟩⟩

def frame : Payload :=
  .text (Json.indented (.obj [("tags", .arr []),
    ("item", .obj [("_id", .str "x"), ("tokens", .int 5)])]))

/-- The connection is made, and the frame is read. -/
def read : Engine :=
  make (.turn 1) ((make (.turn 3) (make (.turn 2) (make (.turn 1) started))).arrive
    (.message (.frame frame)))

/-- The owner is looked up. -/
def asked : Engine :=
  read.progress 0 4 fun registry epoch now p =>
    (p.counted frame).handleEvent registry epoch now event

/-- Alerts are switched off meanwhile. -/
def off : Engine :=
  match asked.stations with
  | s :: _ => (asked.operate 0 s Session.disable).1
  | [] => asked

lemma isPlain_settings : settings.IsPlain :=
  ⟨List.forall_mem_singleton.2 .null, by rintro w ⟨⟩; exact .null⟩

lemma opened : Session.openOn ⟨["a.json"], "!"⟩ .empty disk 0 = (session.disk, .ok session) := by
  have hat : disk.at? ["a.json"] = some (.file (Store.fileContent settings) 1) := by
    rw [disk, Disk.at?_putFile, if_pos rfl]
    rfl
  have hkeeps : Store.Keeps ⟨["a.json"], "!"⟩ settings disk := by
    refine ⟨["a.json"], 1, Disk.settled_of_free rfl rfl ?_, hat⟩
    rw [hat]
    exact fun h => Node.noConfusion (Option.some.inj h)
  have hregistry : Registry.ofSettings .empty 0 settings = .ok ⟨settings, filters⟩ := rfl
  exact Session.openOn_of_keeps isPlain_settings hkeeps hregistry (Prod.ext rfl rfl)

lemma ofFrame_frame : Event.ofFrame frame = .ok event := by
  have hitem : Json.IsPlain (.obj [("_id", .str "x"), ("tokens", .int 5)]) :=
    .obj (by decide) (List.forall_mem_cons.2 ⟨.str, List.forall_mem_singleton.2 (.int (by decide))⟩)
  have hplain : Json.IsPlain (.obj [("tags", .arr []),
      ("item", .obj [("_id", .str "x"), ("tokens", .int 5)])]) :=
    .obj (by decide) (List.forall_mem_cons.2 ⟨.arr nofun, List.forall_mem_singleton.2 hitem⟩)
  simp only [frame, Event.ofFrame, Event.readPayload, Json.read_indented hplain]
  rfl

lemma progress_congr {k : Nat} {i : TaskId}
    {handle handle' : Registry → Int → Nat → Pipeline → Pipeline × Progress}
    (h : ∀ s, e.stations[k]? = some s → ∀ epoch now p,
      handle s.registry epoch now p = handle' s.registry epoch now p) :
    e.progress k i handle = e.progress k i handle' := by
  unfold progress
  cases hs : e.stations[k]? with
  | none => rfl
  | some s => simp only [h s hs]

/-- The handling of the frame begins. -/
lemma make_receive {i : TaskId}
    (htask : e.task? i = some ⟨i, 0, .receive frame, .turn, none, false⟩)
    (hon : e.isOn 0 = true) :
    make (.turn i) e = e.progress 0 i fun registry epoch now p =>
      (p.counted frame).handleEvent registry epoch now event := by
  rw [make, htask]
  dsimp only
  rw [runTask, if_neg Bool.false_ne_true]
  refine progress_congr fun s hs epoch now p => ?_
  rw [isOn_of_station hs] at hon
  exact Pipeline.receive_of_event ⟨by decide +kernel, hon⟩ ofFrame_frame

lemma make_read : make (.turn 4) read = asked := make_receive rfl (by decide +kernel)

lemma moves_started : ReflTransGen Move started asked := by
  rw [← make_read]
  exact (((((ReflTransGen.single (.call (.turn 1))).tail (.call (.turn 2))).tail
    (.call (.turn 3))).tail (.arrive _)).tail (.call (.turn 1))).tail (.call (.turn 4))

lemma moves_asked : ReflTransGen Move created.engine asked :=
  .head (.start _ _ opened) moves_started

lemma move_off : Move asked off := by
  unfold off
  split
  next s rest hs =>
    refine .operate _ ?_
    rw [hs]
    rfl
  next hs =>
    have hone : asked.stations.length = 1 := by decide +kernel
    rw [hs] at hone
    cases hone

/-- The reply is there, and the task of the frame takes its turn. -/
lemma posts_ne {e : Engine}
    (h : (make (.turn 4) (make (.alarm (.ring 4 2)) e)).network.posts.length ≠
      (make (.alarm (.ring 4 2)) e).network.posts.length) :
    (make (.turn 4) (make (.alarm (.ring 4 2)) e)).network.posts ≠
      (make (.alarm (.ring 4 2)) e).network.posts :=
  fun hposts => h (congrArg List.length hposts)

end Late

/-- The owner of an item is looked up, and then the alert is posted. -/
theorem Course.on_of_post_asked :
    ∃ late e e', Course Late.created.engine late e ∧ Move e e' ∧
      e'.network.posts ≠ e.network.posts ∧
      ∃ t s, e' = e.make (.turn t.id) ∧ e.task? t.id = some t ∧ e.stations[t.station]? = some s ∧
        (s.registry.settings.enabled = true ∨ t.id ∈ late) := by
  obtain ⟨late, hrun⟩ := Course.start.trans (Late.moves_asked.tail (.call (.alarm (.ring 4 2))))
  have hmove := Move.call (e := make (.alarm (.ring 4 2)) Late.asked) (.turn 4)
  have hpost : (make (.turn 4) (make (.alarm (.ring 4 2)) Late.asked)).network.posts ≠
      (make (.alarm (.ring 4 2)) Late.asked).network.posts := Late.posts_ne (by decide +kernel)
  exact ⟨_, _, _, hrun, hmove, hpost, hrun.on_of_post hmove hpost⟩

/-- The owner of an item is looked up, alerts are switched off meanwhile, and then the alert is
posted. -/
theorem Course.posts_when_off :
    ∃ late e e', Course Late.created.engine late e ∧ Move e e' ∧
      e'.network.posts ≠ e.network.posts ∧ e.stations.length = 1 ∧ e.isOn 0 = false := by
  obtain ⟨late, hrun⟩ := Course.start.trans
    ((Late.moves_asked.tail Late.move_off).tail (.call (.alarm (.ring 4 2))))
  exact ⟨_, _, _, hrun, .call (.turn 4), Late.posts_ne (by decide +kernel), by decide +kernel,
    by decide +kernel⟩

end Engine

end FeedWatch
