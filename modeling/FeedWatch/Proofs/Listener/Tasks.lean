import FeedWatch.Proofs.Listener.View
import FeedWatch.Proofs.Pipeline.Received

/-!
# What tasks do to the outline

What a task does in its turn is a few moves of the outline.  Meanwhile, `Busy` says that the engine
is sound with that task where it goes next, and `Gone` that it is sound without it; `Rest` says that
it is sound as it is.  Each function of the engine that ends a turn leads from the former to the
latter.
-/

namespace FeedWatch

namespace Engine

/-- Between two turns. -/
structure Rest (fifo : Prop) (e : Engine) : Prop where
  orderly : e.Orderly fifo none
  sound : e.outline.Sound fifo

/-- A task has its turn and has come to a duty. -/
structure Busy (fifo : Prop) (i : TaskId) (d : Duty) (e : Engine) : Prop where
  orderly : e.Orderly fifo (some i)
  sound : (e.outline.put i d).Sound fifo
  elsewhere : i ≠ outside

/-- A task has its turn and is about to end. -/
structure Gone (fifo : Prop) (i : TaskId) (e : Engine) : Prop where
  orderly : e.Orderly fifo (some i)
  sound : (e.outline.leave i).Sound fifo
  elsewhere : i ≠ outside

variable {e : Engine} {fifo : Prop} {i : TaskId} {d : Duty} {l : Link} {w : Work} {s : Nat}
variable {a : Arrival} {t : Task} {busy : Option TaskId}

/-! ## A turn ends -/

lemma Orderly.ne_next (h : e.Orderly fifo (some i)) : i ≠ e.nextTask := by
  obtain ⟨t, ht⟩ := Option.isSome_iff_exists.1 (h.live i rfl)
  exact id_of_task? ht ▸ Nat.ne_of_lt (h.below t (mem_of_task? ht))

lemma Busy.duty (h : Busy fifo i d e) : (e.outline.put i d).duty i = some d := by
  obtain ⟨⟩ := h
  exact Function.update_self _ _ _

lemma Busy.await (h : Busy fifo i w.duty e) (hw : w.frame? = none) {wait : Wait}
    (hwait : wait ≠ .turn) : Rest fifo (e.await i w wait) := by
  refine ⟨h.orderly.await hw hwait, ?_⟩
  rw [outline_await (h.orderly.live i rfl) h.elsewhere hw]
  exact h.sound

lemma Busy.awaitTime (h : Busy fifo i w.duty e) (hw : w.frame? = none) (delay : Binary64) :
    Rest fifo (e.awaitTime i w delay) := by
  refine ⟨h.orderly.awaitTime hw delay, ?_⟩
  rw [outline_awaitTime (h.orderly.live i rfl) h.elsewhere hw]
  exact h.sound

lemma Gone.finishTask (h : Gone fifo i e) : Rest fifo (e.finishTask i) := by
  refine ⟨h.orderly.finishTask, ?_⟩
  rw [outline_finishTask h.elsewhere]
  exact h.sound

/-- A task that does not read may end. -/
lemma Busy.leave (h : Busy fifo i d e) (hread : ∀ s, d ≠ .link (.reading s)) : Gone fifo i e := by
  have hparty : d ≠ .party := by
    rintro rfl
    exact h.elsewhere (h.sound.slots.parties i h.duty)
  have hpending : ∀ q ∈ (e.outline.put i d).pending, q.1 ≠ i := by
    intro q hq
    simpa using (List.mem_filter.1 hq).2
  have hleave := h.sound.leave h.duty hparty (fun s hd => absurd hd (hread s)) hpending
  rw [Outline.put_leave] at hleave
  exact ⟨h.orderly, hleave, h.elsewhere⟩

lemma Orderly.withFeed (h : e.Orderly fifo (some i)) (feed : Feed) :
    Orderly fifo (some i) { e with feed } := h.same h.station rfl rfl rfl rfl

/-! ## Heartbeats -/

lemma Busy.sent (h : Busy fifo i .beat e) (socket : Nat) (failure : Option Failure) :
    Rest fifo (e.sent i socket failure) := by
  rw [Engine.sent]
  split_ifs
  · exact (h.leave (by nofun)).finishTask
  · exact h.awaitTime (w := .beat socket) rfl _

lemma Busy.beat (h : Busy fifo i .beat e) (socket : Nat) : Rest fifo (e.beat i socket) := by
  have hsend : Busy fifo i .beat { e with feed := (e.feed.send socket heartbeat).1 } := by
    refine ⟨h.orderly.withFeed _, ?_, h.elsewhere⟩
    rw [outline_feed (closings_send _ _ _) (read_send _ _ _)]
    exact h.sound
  rw [Engine.beat]
  dsimp only
  split_ifs
  · exact hsend.sent socket _
  · exact hsend.awaitTime (w := .sent socket _) rfl _

/-! ## A connection ends -/

/-- Where a task has to do with the connection and is no pause, no reconnect is pending. -/
lemma Busy.reconnect_dead (h : Busy fifo i (.link l) e) (hl : l ≠ .pausing) :
    e.isHeldLive (e.listener 0).reconnect = false := by
  refine Bool.eq_false_iff.2 fun hlive => ?_
  obtain ⟨r, d, hr, hd⟩ := exists_of_isHeldLive hlive
  by_cases hri : r = i
  · subst hri
    have hpause := h.sound.slots.pauses r _ hr h.duty
    exact hl (Duty.link.inj hpause)
  · have hd' : (e.outline.put i (.link l)).duty r = some d :=
      (Function.update_of_ne hri _ _).trans hd
    rw [h.sound.slots.pauses r d hr hd'] at hd'
    exact hri (h.sound.slots.single r i _ _ hd' h.duty)

lemma Busy.reconnect_dropConnection (h : Busy fifo i (.link l) e) (hl : l ≠ .pausing) :
    (e.dropConnection 0).isHeldLive ((e.dropConnection 0).listener 0).reconnect = false := by
  rw [isHeldLive_dropConnection, listener_dropConnection h.orderly.station]
  exact h.reconnect_dead hl

lemma Busy.outline_dropConnection (h : Busy fifo i d e) :
    (e.dropConnection 0).outline = { e.outline.cancel (e.listener 0).heartbeat with
      listener := { e.outline.listener with
        heartbeat := none, socket := none, phase := .disconnected } } := by
  have hbeat : (e.dropHeartbeat 0).Orderly fifo (some i) ∧
      (e.dropHeartbeat 0).outline = e.outline.cancel (e.listener 0).heartbeat := by
    obtain ⟨hnone, hdrop⟩ | ⟨b, hb, hdrop⟩ := dropHeartbeat_cases 0 e
    · rw [hdrop, hnone, Outline.cancel_none]
      exact ⟨h.orderly, rfl⟩
    · rw [hdrop, hb, outline_cancel (h.sound.slots.ne_outside hb)]
      exact ⟨h.orderly.cancel b, rfl⟩
  rw [dropConnection, outline_alterListener hbeat.1, hbeat.2]
  rfl

lemma Gone.scheduleReconnect (h : Gone fifo i e) (hfree : (e.outline.leave i).Free fifo)
    (hdead : e.isHeldLive (e.listener 0).reconnect = false)
    (hrunning : e.outline.listener.running = true)
    (hphase : e.outline.listener.phase = .disconnected)
    (hheartbeat : e.outline.listener.heartbeat = none) : Gone fifo i (e.scheduleReconnect 0) := by
  rw [Engine.scheduleReconnect, hdead, if_neg (by nofun)]
  have hlisten := h.orderly.alterListener fun l => { l with
    reconnectsScheduled := l.reconnectsScheduled + 1, reconnect := some e.nextTask }
  refine ⟨hlisten.spawn .pause, ?_, h.elsewhere⟩
  rw [outline_spawn_of hlisten 0 rfl, outline_alterListener h.orderly,
    Outline.spawn_leave h.orderly.ne_next]
  exact hfree.schedule hrunning hphase hheartbeat _

/-- The connection is dropped, and no pause is going on, so that a reconnect is scheduled. -/
lemma Busy.disconnected (h : Busy fifo i (.link l) e) (hread : ∀ s, l ≠ .reading s)
    (hpausing : l ≠ .pausing) : Gone fifo i (e.disconnected 0) := by
  have hview := h.outline_dropConnection
  have hfree : ((e.dropConnection 0).outline.leave i).Free fifo := by
    have hleft := h.sound.free_leave h.duty hread
    rw [Outline.put_leave] at hleft
    have hdrop : Outline.Free fifo { (e.outline.leave i).cancel (e.listener 0).heartbeat with
        listener := { e.outline.listener with
          heartbeat := none, socket := none, phase := .disconnected } } := hleft.disconnect
    rw [← Outline.cancel_leave] at hdrop
    rw [hview]
    exact hdrop
  have hgone : Gone fifo i (e.dropConnection 0) :=
    ⟨h.orderly.dropConnection, hfree.toSound, h.elsewhere⟩
  rw [disconnected_eq]
  split_ifs with hrunning
  · refine hgone.scheduleReconnect hfree (h.reconnect_dropConnection hpausing) hrunning ?_ ?_
    · rw [hview]
    · rw [hview]
  · exact hgone

lemma Busy.closed (h : Busy fifo i (.link .closing) e) (failure : Option Failure) :
    Rest fifo (e.closed 0 i failure) := by
  rw [Engine.closed.eq_def]
  split
  · exact (h.leave (by nofun)).finishTask
  · exact (h.disconnected (by nofun) (by nofun)).finishTask

/-! ## Messages -/

/-- What ends a connection is read, and the socket is being closed. -/
lemma Busy.close {feed : Feed} (h : Busy fifo i (.link (.reading s)) e)
    (hnext : e.feed.next? s = some (a, feed)) (hends : a.ends = true) :
    Busy fifo i (.link .closing) { e with feed := (feed.close s).1 } := by
  obtain ⟨hclosings, hread⟩ := next?_eq_some hnext
  have hclose : (feed.close s).1.sockets.map Socket.closings =
      (e.feed.sockets.map Socket.closings).modify s (· + 1) :=
    hclosings ▸ map_alter (k := Socket.closings) (fun _ => rfl) s feed
  refine ⟨h.orderly.withFeed _, ?_, h.elsewhere⟩
  have hsound := h.sound.close h.duty hends
  have hview : outline { e with feed := (feed.close s).1 } = { e.outline.hear s a with
      closings := e.outline.closings.modify s (· + 1) } := by
    rw [outline, hclose]
    simp only [Feed.close, Feed.alter, hread]
    rfl
  rw [hview]
  rw [← Outline.put_put i (.link (.reading s))]
  exact hsound

lemma Busy.endConnection {feed : Feed} (h : Busy fifo i (.link (.reading s)) e)
    (hnext : e.feed.next? s = some (a, feed)) (hends : a.ends = true) :
    Rest fifo (endConnection 0 i s { e with feed }) := by
  have hbusy := h.close hnext hends
  rw [Engine.endConnection]
  split_ifs
  · exact hbusy.closed _
  · exact hbusy.awaitTime (w := .closed _) rfl _

/-- The task of a frame begins, and the listener holds on to it. -/
lemma outline_spawnFrame {busy : Option TaskId} (h : e.Orderly fifo busy) (p : Payload) :
    ((e.alterListener 0 fun l => { l with events := l.events ++ [e.nextTask] }).spawn 0
      (.receive p)).outline = { e.outline.spawn .aside with
        listener := { e.outline.listener with events := e.outline.listener.events ++ [e.nextTask] }
        pending := e.outline.pending ++ [(e.nextTask, p)] } := by
  rw [outline_spawn (h.alterListener _), outline_alterListener h]
  rfl

/-- A message that is no frame is read. -/
lemma Busy.hear {feed : Feed} (h : Busy fifo i (.link (.reading s)) e)
    (hnext : e.feed.next? s = some (a, feed)) (hends : a.ends = false) (hframe : a.frame? = none) :
    Busy fifo i (.link (.reading s)) { e with feed } := by
  refine ⟨h.orderly.withFeed _, ?_, h.elsewhere⟩
  rw [outline_next? hnext]
  exact h.sound.hearControl h.duty hends hframe

/-- A frame is read. -/
lemma Busy.takeFrame {feed : Feed} {p : Payload} (h : Busy fifo i (.link (.reading s)) e)
    (hnext : e.feed.next? s = some (.message (.frame p), feed)) :
    Busy fifo i (.link (.reading s)) (takeFrame 0 p { e with feed }) := by
  have hcount := (h.orderly.withFeed feed).alterListener fun l =>
    { l with framesReceived := l.framesReceived + 1 }
  have hview := outline_alterListener (h.orderly.withFeed feed) fun l =>
    { l with framesReceived := l.framesReceived + 1 }
  rw [outline_next? hnext] at hview
  rw [Engine.takeFrame]
  split_ifs with hp
  · refine ⟨hcount, ?_, h.elsewhere⟩
    rw [hview]
    exact h.sound.hearHeartbeat h.duty hp
  · refine ⟨(hcount.alterListener _).spawn _, ?_, h.elsewhere⟩
    rw [outline_spawnFrame hcount, hview]
    have hsound := h.sound.hearFrame h.duty (Bool.not_eq_true _ ▸ hp)
      (e.outline.listener.events ++ [e.nextTask])
    have hput := Outline.spawnFrame_put (o := { e.outline.hear s (.message (.frame p)) with
      listener := { e.outline.listener with
        framesReceived := e.outline.listener.framesReceived + 1
        events := e.outline.listener.events ++ [e.nextTask] } })
      h.orderly.ne_next (.link (.reading s)) p
    exact (congrArg (Outline.Sound fifo) hput).mpr hsound

/-- A connection reads what has arrived. -/
lemma Busy.readFrom (h : Busy fifo i (.link (.reading s)) e) (fuel : Nat) :
    Rest fifo (e.readFrom 0 i s fuel) := by
  induction fuel generalizing e with
  | zero => exact h.await (w := .read s) rfl (by nofun)
  | succ fuel ih =>
    rw [Engine.readFrom]
    cases hnext : e.feed.next? s with
    | none => exact h.await (w := .read s) rfl (by nofun)
    | some r =>
      obtain ⟨a, feed⟩ := r
      cases a with
      | message m =>
        cases m with
        | frame p => exact ih (h.takeFrame hnext)
        | error => exact h.endConnection hnext rfl
        | control => exact ih (h.hear hnext rfl rfl)
      | ended => exact h.endConnection hnext rfl
      | failed f => exact h.endConnection hnext rfl

/-! ## Connecting -/

/-- A socket is accepted, and then the heartbeat begins. -/
lemma Busy.accept (h : Busy fifo i (.link .shaking) e) (a : Attempt) :
    Busy fifo i (.link (.reading e.feed.sockets.length))
      (((alterListener 0 fun l => { l with
        socket := some e.feed.sockets.length, phase := .connected
        heartbeat := some e.nextTask }) { e with feed := e.feed.accept a }).spawn 0
          (.rest e.feed.sockets.length)) := by
  have hlength : e.outline.closings.length = e.feed.sockets.length := List.length_map _
  have haccept := h.sound.accept h.duty
  have hbeat := haccept.startBeat (i := i) (Function.update_self _ _ _) rfl
  have hfeed := h.orderly.withFeed (e.feed.accept a)
  have hlisten := hfeed.alterListener fun l => { l with
    socket := some e.feed.sockets.length, phase := .connected, heartbeat := some e.nextTask }
  refine ⟨hlisten.spawn (.rest e.feed.sockets.length), ?_, h.elsewhere⟩
  have hclosings : (e.feed.accept a).sockets.map Socket.closings = e.outline.closings ++ [0] :=
    List.map_append
  have hview : outline { e with feed := e.feed.accept a } =
      { e.outline with closings := e.outline.closings ++ [0] } := by
    rw [outline, hclosings]
    rfl
  rw [outline_spawn_of hlisten 0 rfl, outline_alterListener hfeed, hview,
    Outline.spawn_put h.orderly.ne_next, ← hlength]
  rw [Outline.put_put] at hbeat
  exact hbeat

lemma Busy.connected (h : Busy fifo i (.link .shaking) e) (a : Attempt) :
    Rest fifo (e.connected 0 i a) := by
  rw [Engine.connected]
  split
  · exact (h.disconnected (by nofun) (by nofun)).finishTask
  · exact (h.accept a).readFrom _

/-- An attempt is made. -/
lemma Busy.attempt (h : Busy fifo i (.link .connecting) e) :
    Busy fifo i (.link .shaking) { e.alterListener 0 fun l => { l with
      phase := .connecting, connectAttempts := l.connectAttempts + 1, hasSession := true } with
      feed := (e.feed.attempt e.timing.feedUrl).1 } := by
  have hsound := h.sound.connect h.duty (e.outline.listener.connectAttempts + 1)
  have hview := outline_alterListener h.orderly fun l => { l with
    phase := .connecting, connectAttempts := l.connectAttempts + 1, hasSession := true }
  rw [Outline.put_put] at hsound
  exact ⟨(h.orderly.alterListener _).withFeed _, hview ▸ hsound, h.elsewhere⟩

lemma Busy.connect (h : Busy fifo i (.link .connecting) e) : Rest fifo (e.connect 0 i) := by
  have hbusy := h.attempt
  rw [Engine.connect]
  dsimp only
  split_ifs
  · exact hbusy.connected _
  · exact hbusy.awaitTime (w := .connected _) rfl _

lemma Gone.dial (h : Gone fifo i e) (hfree : (e.outline.leave i).Free fifo)
    (hrunning : e.outline.listener.running = true)
    (hheartbeat : e.outline.listener.heartbeat = none) :
    Gone fifo i
      ((e.alterListener 0 fun l => { l with connection := some e.nextTask }).spawn 0 .connect) := by
  have hlisten := h.orderly.alterListener fun l => { l with connection := some e.nextTask }
  refine ⟨hlisten.spawn .connect, ?_, h.elsewhere⟩
  rw [outline_spawn_of hlisten 0 rfl, outline_alterListener h.orderly,
    Outline.spawn_leave h.orderly.ne_next]
  exact hfree.dial hrunning hheartbeat

/-- A pause is over, and a connection is begun. -/
lemma Busy.reconnect (h : Busy fifo i (.link .pausing) e) : Rest fifo (e.reconnect 0 i) := by
  have hheartbeat : e.outline.listener.heartbeat = none := (h.sound.phases.pausing i h.duty).2
  have hfree : (e.outline.leave i).Free fifo := by
    have := h.sound.free_leave h.duty (by nofun)
    rwa [Outline.put_leave] at this
  have hview := outline_alterListener h.orderly fun l => { l with reconnect := none }
  have hforget : Outline.Free fifo (Outline.leave i
      (e.alterListener 0 fun l => { l with reconnect := none }).outline) := by
    rw [hview]
    exact hfree.forget
  have hgone : Gone fifo i (e.alterListener 0 fun l => { l with reconnect := none }) :=
    ⟨h.orderly.alterListener _, hforget.toSound, h.elsewhere⟩
  refine Gone.finishTask (e := ite _ _ _) ?_
  split_ifs with hrunning
  · refine hgone.dial hforget hrunning ?_
    rw [hview]
    exact hheartbeat
  · exact hgone

/-! ## Frames -/

lemma Rest.enqueue (h : Rest fifo e) {c : Call} (hc : c.turn? = none) : Rest fifo (e.enqueue c) :=
  ⟨h.orderly.enqueue hc, h.sound⟩

/-- Tasks that wait for something else than their turn or an end join the queue. -/
lemma Rest.wakeWaiting (h : Rest fifo e) (p : Task → Bool) {w : Wait} (hturn : w ≠ .turn)
    (hcompletion : w.completion? = none) (hp : ∀ t, p t = true → t.wait = w) :
    Rest fifo (e.wake p) := by
  refine ⟨h.orderly.wake p fun t ht => ?_, ?_⟩
  · rw [hp t ht]
    exact hturn
  · rw [outline_wake_of p fun t ht => by rw [hp t ht, hcompletion]]
    exact h.sound

lemma Busy.finishFrame (h : Busy fifo i .aside e) : Rest fifo (e.finishFrame 0 i) := by
  have hrest := ((h.leave (by nofun)).finishTask).enqueue (c := .settled 0 i) rfl
  rw [Engine.finishFrame]
  split_ifs
  · exact hrest.enqueue rfl
  · exact hrest

/-- Handling a frame notes what it does, and waits or is done. -/
lemma Orderly.progress (ps : List Payload)
    {handle : Registry → Int → Nat → Pipeline → Pipeline × Progress} (h : e.Orderly fifo (some i))
    (hi : i ≠ outside)
    (hhandle : ∀ r epoch now p, (handle r epoch now p).1.received = p.received ++ ps)
    (hsound : Outline.Sound fifo { e.outline.put i .aside with
      received := e.outline.received ++ ps }) : Rest fifo (e.progress 0 i handle) := by
  obtain ⟨st, hst⟩ := h.station
  have hget : e.stations[0]? = some st := by rw [hst]; rfl
  obtain ⟨r, hr⟩ : ∃ r, r = handle st.registry e.epoch e.micros
      { st.pipeline with network := e.network } := ⟨_, rfl⟩
  have hreceived : r.1.received = e.outline.received ++ ps := by
    rw [hr, hhandle, outline, received, hget]
    rfl
  have hnetwork : Orderly fifo (some i) { e with network := r.1.network } :=
    h.same h.station rfl rfl rfl rfl
  have hbusy : Busy fifo i .aside (Engine.alterStation 0 (fun st => { st with pipeline := r.1 })
      { e with network := r.1.network }) := by
    refine ⟨hnetwork.alterStation _, ?_, hi⟩
    rw [outline_alterStation (e := { e with network := r.1.network }) hst
      (fun st => { st with pipeline := r.1 }) rfl, hreceived]
    exact hsound
  rw [Engine.progress, hget]
  dsimp only
  rw [← hr]
  split
  · exact hbusy.awaitTime (w := .resume _) rfl _
  · split
    · have hrest := hbusy.finishFrame
      exact ⟨hrest.orderly.same hrest.orderly.station rfl rfl rfl rfl, hrest.sound⟩
    · exact hbusy.finishFrame

lemma Busy.resume (h : Busy fifo i .aside e) (stage : Stage) :
    Rest fifo (e.progress 0 i fun registry epoch now pipeline =>
      pipeline.resume registry epoch now stage) := by
  refine h.orderly.progress [] h.elsewhere (fun _ _ _ _ => ?_) ?_
  · rw [List.append_nil]
    exact Pipeline.received_resume stage
  · rw [List.append_nil]
    exact h.sound

/-- Sound outlines do not depend on the frames in flight that a listener holds on to. -/
lemma Rest.settled (h : Rest fifo e) (k : Nat) (id : TaskId) : Rest fifo (e.settled k id) := by
  cases k with
  | zero =>
    refine ⟨h.orderly.alterListener _, ?_⟩
    rw [Engine.settled, outline_alterListener h.orderly]
    obtain ⟨hslots, hphases, hhalts, hsockets, hreadings, hledger⟩ := h.sound
    exact ⟨{ hslots with }, { hphases with }, { hhalts with }, { hsockets with },
      { hreadings with }, { hledger with }⟩
  | succ k =>
    obtain ⟨st, hst⟩ := h.orderly.station
    have hmodify : ∀ g, e.stations.modify (k + 1) g = e.stations := by
      intro g
      rw [hst]
      simp
    rw [Engine.settled, Engine.alterListener, Engine.alterStation, hmodify]
    exact h

/-- Tasks are changed in a way that does not matter. -/
lemma Rest.mapTasks {f : Task → Task} (h : Rest fifo e) (hid : ∀ t, (f t).id = t.id)
    (hstation : ∀ t, (f t).station = t.station) (hduty : ∀ t, (f t).work.duty = t.work.duty)
    (hframe : ∀ t, (f t).work.frame? = t.work.frame?)
    (hcancelled : ∀ t, (f t).cancelled = t.cancelled)
    (hturn : ∀ t, (f t).wait = .turn ↔ t.wait = .turn)
    (hcompletion : ∀ t, (f t).wait.completion? = t.wait.completion?) :
    Rest fifo { e with tasks := e.tasks.map f } := by
  refine ⟨h.orderly.map (s := e.schedule) hid hstation (fun _ hi => hi) fun hfifo =>
    (h.orderly.lined hfifo).map hid hframe hturn, ?_⟩
  have hview := outline_map (e := e) hid hduty hframe hcancelled e.schedule
  simp only [hcompletion] at hview
  exact hview ▸ h.sound

lemma Rest.gathered (h : Rest fifo e) (id : TaskId) : Rest fifo (e.gathered id) := by
  have hrest : Rest fifo { e with
      tasks := e.tasks.map fun (t : Task) => { t with wait := t.wait.without id } } := by
    refine h.mapTasks (fun _ => rfl) (fun _ => rfl) (fun _ => rfl) (fun _ => rfl) (fun _ => rfl)
      (fun t => ?_) fun t => ?_
    · cases t.wait with
      | gathering tasks => exact ⟨nofun, nofun⟩
      | _ => rfl
    · cases t.wait with
      | _ => rfl
  exact hrest.wakeWaiting _ (w := .gathering []) (by nofun) rfl fun t ht => beq_iff_eq.1 ht

/-! ## Settings -/

lemma Orderly.keep (h : e.Orderly fifo busy) (session : Session) :
    (e.keep 0 session).Orderly fifo busy := by
  have hdisk : Orderly fifo busy
      { e with disk := session.disk, nextSerial := session.nextSerial } :=
    h.same h.station rfl rfl rfl rfl
  exact hdisk.alterStation _

lemma outline_keep (h : e.Orderly fifo busy) (session : Session) :
    (e.keep 0 session).outline = e.outline :=
  outline_alterStation_of (e := { e with disk := session.disk, nextSerial := session.nextSerial })
    (h.same h.station rfl rfl rfl rfl) _ (fun _ => rfl) fun _ => rfl

lemma outline_setWebhookUrl (h : e.Orderly fifo busy) (url : Option String) :
    (e.setWebhookUrl 0 url).outline = e.outline := by
  refine outline_alterStation_of h _ (fun s => ?_) fun s => ?_
  · split
    · rfl
    · rfl
  · split
    · rfl
    · rfl

/-- A look at the settings file is not seen. -/
lemma Orderly.refresh (h : e.Orderly fifo busy) :
    e.refresh.1.Orderly fifo busy ∧ e.refresh.1.outline = e.outline := by
  obtain ⟨st, hst⟩ := h.station
  have hnewest : e.newest? = some 0 := by
    rw [newest?, hst]
    rfl
  have hlast : e.stations.getLast? = some st := by
    rw [hst]
    rfl
  simp only [Engine.refresh, hnewest, hlast]
  split_ifs
  · exact ⟨h, rfl⟩
  · split
    · exact ⟨h.keep _, outline_keep h _⟩
    · rename_i session _
      have hstamp : Orderly fifo busy { e.keep 0 session with stamp := e.store.stamp? e.disk } :=
        (h.keep session).same (h.keep session).station rfl rfl rfl rfl
      exact ⟨hstamp.alterStation _, (outline_setWebhookUrl hstamp _).trans (outline_keep h session)⟩

lemma Busy.refresh (h : Busy fifo i d e) : Busy fifo i d e.refresh.1 := by
  obtain ⟨horderly, hview⟩ := h.orderly.refresh
  exact ⟨horderly, hview ▸ h.sound, h.elsewhere⟩

lemma Rest.refresh (h : Rest fifo e) : Rest fifo e.refresh.1 := by
  obtain ⟨horderly, hview⟩ := h.orderly.refresh
  exact ⟨horderly, hview ▸ h.sound⟩

/-! ## Watching for the user -/

lemma Busy.watch (h : Busy fifo i .aside e) : Rest fifo (e.watch i) := by
  rw [Engine.watch]
  split_ifs
  · exact ((h.leave (by nofun)).finishTask).enqueue rfl
  · exact h.await (w := .vigil) rfl (by nofun)

end Engine

end FeedWatch
