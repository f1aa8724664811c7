import FeedWatch.Watcher
import FeedWatch.Proofs.Listener.Links

/-!
# The newest station alone

`Engine.focus` is the engine as its newest station sees it: the stations before it are left out,
with what was read before it began, and the end of the look at the settings file looks like any
other sleep.  What the engine does for the newest station is what the engine in focus does for its
only one; there is one lemma for each function of the engine.  Main statements: a turn of a task is
that turn in focus (`focus_runTask`), and so is any other call (`focus_goOff`, `focus_settled`,
`focus_gathered`).
-/

namespace FeedWatch

/-- A feed of which so much was read before. -/
def Feed.since (m : Nat) (feed : Feed) : Feed := { feed with read := feed.read.drop m }

/-- A task of a station is at home there, as the party outside is everywhere.  That task `ρ`, the
look at the settings file, is cancelled is not seen. -/
def Task.inFocus (n : Nat) (ρ : Option TaskId) (t : Task) : Task :=
  { t with
    station := if t.id = Engine.outside ∨ t.station = n then 0 else 1
    cancelled := t.cancelled && ρ != some t.id }

/-- What becomes of a call; the frames of other stations are none of the newest one's. -/
def Call.inFocus (n : Nat) : Call → Call
  | settled k i => .settled (if k = n then 0 else 1) i
  | c => c

lemma Call.inFocus_turn (n : Nat) (i : TaskId) : (turn i).inFocus n = .turn i := rfl

/-- The calls in focus. -/
def Schedule.inFocus (n : Nat) (s : Schedule) : Schedule :=
  { s with queue := s.queue.map (Call.inFocus n) }

/-- That the look at the settings file is to end is not seen. -/
def Stopping.inFocus : Option Stopping → Option Stopping
  | some .refresher => none
  | stopping => stopping

namespace Engine

/-- The engine as its station `n` sees it, when `m` arrivals were read before; that task `ρ` is to
end is not seen. -/
def focus (n m : Nat) (ρ : Option TaskId) (e : Engine) : Engine :=
  { e with
    schedule := e.schedule.inFocus n
    feed := e.feed.since m
    stations := e.stations.drop n
    tasks := e.tasks.map (Task.inFocus n ρ)
    refresher := none
    stopping := Stopping.inFocus e.stopping }

variable {n m : Nat} {ρ : Option TaskId} {e e' : Engine} {i : TaskId} {t : Task}

/-! ## Stations -/

@[simp]
lemma stations_focus : (e.focus n m ρ).stations = e.stations.drop n := rfl

@[simp]
lemma feed_focus : (e.focus n m ρ).feed = e.feed.since m := rfl

@[simp]
lemma micros_focus : (e.focus n m ρ).micros = e.micros := rfl

@[simp]
lemma focus_alterStation (f : Station → Station) :
    (e.alterStation n f).focus n m ρ = (e.focus n m ρ).alterStation 0 f := by
  have hdrop : (e.stations.modify n f).drop n = (e.stations.drop n).modify 0 f := by
    refine List.ext_getElem? fun j => ?_
    rw [List.getElem?_drop, List.getElem?_modify, List.getElem?_modify, List.getElem?_drop]
    by_cases hj : j = 0
    · simp [hj]
    · simp [hj, Ne.symm hj]
  rw [focus, alterStation, alterStation, hdrop]
  rfl

@[simp]
lemma focus_alterListener (f : Listener → Listener) :
    (e.alterListener n f).focus n m ρ = (e.focus n m ρ).alterListener 0 f := focus_alterStation _

@[simp]
lemma getElem?_focus : (e.focus n m ρ).stations[0]? = e.stations[n]? := by
  rw [stations_focus, List.getElem?_drop, Nat.add_zero]

@[simp]
lemma listener_focus : (e.focus n m ρ).listener 0 = e.listener n := by
  rw [listener, listener, getElem?_focus]

/-! ## Tasks -/

lemma inFocus_task? (i : TaskId) :
    (e.focus n m ρ).task? i = (e.task? i).map (Task.inFocus n ρ) :=
  find?_map_task (f := Task.inFocus n ρ) (fun _ => rfl) e.tasks i

@[simp]
lemma isLive_focus (i : TaskId) : (e.focus n m ρ).isLive i = e.isLive i := by
  rw [isLive, inFocus_task?, Option.isSome_map, isLive]

@[simp]
lemma isHeldLive_focus (held : Option TaskId) :
    (e.focus n m ρ).isHeldLive held = e.isHeldLive held := by
  cases held with
  | none => rfl
  | some i => exact isLive_focus i

@[simp]
lemma nextTask_focus : (e.focus n m ρ).nextTask = e.nextTask := rfl

@[simp]
lemma isAwake_focus : (e.focus n m ρ).isAwake = e.isAwake := rfl

lemma inFocus_append (calls : List Call) (s : Schedule) :
    Schedule.inFocus n { s with queue := s.queue ++ calls } =
      { s.inFocus n with queue := (s.inFocus n).queue ++ calls.map (Call.inFocus n) } := by
  rw [Schedule.inFocus, List.map_append]
  rfl

/-- A change of the tasks and the schedule. -/
lemma focus_tasks (tasks : List Task) (schedule : Schedule) (nextTask : TaskId) :
    focus n m ρ { e with tasks, schedule, nextTask } = { e.focus n m ρ with
      tasks := tasks.map (Task.inFocus n ρ), schedule := schedule.inFocus n, nextTask } := rfl

lemma focus_enqueue (c : Call) :
    (e.enqueue c).focus n m ρ = (e.focus n m ρ).enqueue (c.inFocus n) := by
  have hschedule : (e.schedule.enqueue c).inFocus n =
      (e.schedule.inFocus n).enqueue (c.inFocus n) := inFocus_append [c] e.schedule
  rw [enqueue, focus_tasks, hschedule]
  rfl

/-- A new task is one of the station. -/
@[simp]
lemma focus_spawn (w : Work) :
    (e.spawn n w).focus n m ρ = (e.focus n m ρ).spawn 0 w := by
  have htask : Task.inFocus n ρ ⟨e.nextTask, n, w, .turn, none, false⟩ =
      ⟨e.nextTask, 0, w, .turn, none, false⟩ := by
    simp [Task.inFocus]
  have hschedule : (e.schedule.enqueue (.turn e.nextTask)).inFocus n =
      (e.schedule.inFocus n).enqueue (.turn e.nextTask) := inFocus_append _ e.schedule
  rw [spawn, focus_tasks, List.map_append, List.map_singleton, htask, hschedule]
  rfl

/-- A change of all tasks that leaves their numbers, their homes and their ends alone. -/
lemma focus_mapTasks {f : Task → Task} (hf : ∀ t, (f t).inFocus n ρ = f (t.inFocus n ρ)) :
    focus n m ρ { e with tasks := e.tasks.map f } =
      { e.focus n m ρ with tasks := (e.focus n m ρ).tasks.map f } := by
  have htasks : (e.tasks.map f).map (Task.inFocus n ρ) =
      (e.tasks.map (Task.inFocus n ρ)).map f := by
    rw [List.map_map, List.map_map]
    exact List.map_congr_left fun t _ => hf t
  rw [focus_tasks, htasks]
  rfl

lemma focus_alterTask {f : Task → Task} (hf : ∀ t, (f t).inFocus n ρ = f (t.inFocus n ρ))
    (i : TaskId) : (e.alterTask i f).focus n m ρ = (e.focus n m ρ).alterTask i f := by
  refine focus_mapTasks fun t => ?_
  rw [show (t.inFocus n ρ).id = t.id from rfl]
  split_ifs
  · exact hf t
  · rfl

@[simp]
lemma focus_await (i : TaskId) (w : Work) (wait : Wait) :
    (e.await i w wait).focus n m ρ = (e.focus n m ρ).await i w wait :=
  focus_alterTask (f := fun t => { t with work := w, wait }) (fun _ => rfl) i

@[simp]
lemma focus_awaitTime (i : TaskId) (w : Work) (delay : Binary64) :
    (e.awaitTime i w delay).focus n m ρ = (e.focus n m ρ).awaitTime i w delay := by
  rw [awaitTime, awaitTime]
  split_ifs
  · have halter := focus_alterTask (n := n) (m := m) (ρ := ρ) (e := e) (f := fun t => { t with
      work := w, wait := .turn }) (fun _ => rfl) i
    rw [focus_enqueue, halter]
    rfl
  · have halter := focus_alterTask (n := n) (m := m) (ρ := ρ) (e := e) (f := fun t => { t with
      work := w, wait := .timer e.schedule.nextTimer, timer := some e.schedule.nextTimer })
      (fun _ => rfl) i
    exact congrArg (fun e' : Engine => { e' with
      schedule := (e.schedule.inFocus n).setTimer delay (.ring i e.schedule.nextTimer) }) halter

/-- Who is to wake is told by its number and what it waits for. -/
lemma focus_wake {p : Task → Bool} (hp : ∀ t : Task, p (t.inFocus n ρ) = p t) :
    (e.wake p).focus n m ρ = (e.focus n m ρ).wake p := by
  have htasks : (e.tasks.map fun t => if p t then { t with wait := .turn } else t).map
      (Task.inFocus n ρ) =
      (e.tasks.map (Task.inFocus n ρ)).map fun t => if p t then { t with wait := .turn } else t := by
    rw [List.map_map, List.map_map]
    refine List.map_congr_left fun t _ => ?_
    rw [Function.comp_apply, Function.comp_apply, hp]
    split_ifs
    · rfl
    · rfl
  have hcalls : ((e.tasks.filter p).map fun t => Call.turn t.id).map (Call.inFocus n) =
      ((e.tasks.map (Task.inFocus n ρ)).filter p).map fun t => Call.turn t.id := by
    rw [List.filter_map, List.map_map, List.map_map]
    congr 1
    exact List.filter_congr fun t _ => (hp t).symm
  rw [wake, focus_tasks, inFocus_append, htasks, hcalls]
  rfl

/-- The look at the settings file is not cancelled like other tasks. -/
lemma focus_cancel (hi : ρ = some i → e.isLive i = false) :
    (e.cancel i).focus n m ρ = (e.focus n m ρ).cancel i := by
  have htasks : (e.tasks.map fun t => if t.id = i then { t with cancelled := true } else t).map
      (Task.inFocus n ρ) = (e.tasks.map (Task.inFocus n ρ)).map fun t =>
        if t.id = i then { t with cancelled := true } else t := by
    rw [List.map_map, List.map_map]
    refine List.map_congr_left fun t ht => ?_
    rw [Function.comp_apply, Function.comp_apply, show (t.inFocus n ρ).id = t.id from rfl]
    split_ifs with hid
    · have hne : ρ ≠ some t.id := by
        intro hρ
        have hdead := hi (hid ▸ hρ)
        rw [← hid, isLive_of_mem ht] at hdead
        cases hdead
      simp [Task.inFocus, hne]
    · rfl
  have halter : (e.alterTask i fun t => { t with cancelled := true }).focus n m ρ =
      (e.focus n m ρ).alterTask i fun t => { t with cancelled := true } := by
    rw [alterTask, focus_tasks, htasks]
    rfl
  rw [cancel, cancel, focus_wake fun _ => rfl, halter]

@[simp]
lemma focus_finishTask (i : TaskId) :
    (e.finishTask i).focus n m ρ = (e.focus n m ρ).finishTask i := by
  have htasks : (e.tasks.filter (·.id != i)).map (Task.inFocus n ρ) =
      (e.tasks.map (Task.inFocus n ρ)).filter (·.id != i) := by
    rw [List.filter_map]
    rfl
  have hleave : focus n m ρ { e with tasks := e.tasks.filter (·.id != i) } =
      { e.focus n m ρ with tasks := (e.focus n m ρ).tasks.filter (·.id != i) } := by
    rw [focus_tasks, htasks]
    rfl
  rw [finishTask, finishTask, focus_wake fun _ => rfl, hleave]

lemma focus_callOff (number : Nat) :
    focus n m ρ { e with schedule := e.schedule.callOff number } =
      { e.focus n m ρ with schedule := (e.focus n m ρ).schedule.callOff number } := by
  have hcall : (e.schedule.callOff number).inFocus n = (e.schedule.inFocus n).callOff number := by
    rw [Schedule.callOff, Schedule.callOff,
      show (e.schedule.inFocus n).timers = e.schedule.timers from rfl]
    split_ifs
    · rfl
    · rfl
  rw [focus_tasks, hcall]
  rfl

@[simp]
lemma focus_endCancelled (t : Task) :
    (e.endCancelled t).focus n m ρ = (e.focus n m ρ).endCancelled (t.inFocus n ρ) := by
  rw [endCancelled, endCancelled, show (t.inFocus n ρ).timer = t.timer from rfl,
    show (t.inFocus n ρ).id = t.id from rfl]
  cases t.timer with
  | none => exact focus_finishTask t.id
  | some number =>
    dsimp only
    rw [focus_finishTask, focus_callOff]

/-! ## The connection -/

/-- The look at the settings file has begun, and the slot of the heartbeat does not hold it, unless
it is done. -/
structure Clear (n : Nat) (ρ : Option TaskId) (e : Engine) : Prop where
  begun : ∀ r, ρ = some r → r < e.nextTask
  heartbeat : ∀ r, ρ = some r → (e.listener n).heartbeat = some r → e.isLive r = false

lemma Clear.withFeed (h : e.Clear n ρ) (feed : Feed) : Clear n ρ { e with feed } :=
  ⟨h.begun, h.heartbeat⟩

lemma Clear.alterListener (h : e.Clear n ρ) (f : Listener → Listener)
    (hf : ∀ l, (f l).heartbeat = l.heartbeat ∨ (f l).heartbeat = some e.nextTask) :
    (e.alterListener n f).Clear n ρ := by
  refine ⟨h.begun, fun r hr hbeat => ?_⟩
  rw [← listener_focus (m := 0) (ρ := ρ), focus_alterListener] at hbeat
  obtain hl | hl := Quiet.listener_alterListener 0 f (e.focus n 0 ρ)
  · rw [hl, listener_focus] at hbeat
    exact h.heartbeat r hr hbeat
  · rw [hl] at hbeat
    obtain hf | hf := hf ((e.focus n 0 ρ).listener 0)
    · rw [hf, listener_focus] at hbeat
      exact h.heartbeat r hr hbeat
    · rw [hf] at hbeat
      exact absurd (Option.some.inj hbeat).symm (Nat.ne_of_lt (h.begun r hr))

lemma Clear.spawn (h : e.Clear n ρ) (k : Nat) (w : Work) : (e.spawn k w).Clear n ρ := by
  refine ⟨fun r hr => Nat.lt_succ_of_lt (h.begun r hr), fun r hr hbeat => ?_⟩
  have hdead := h.heartbeat r hr hbeat
  have hne : e.nextTask ≠ r := Ne.symm (Nat.ne_of_lt (h.begun r hr))
  simpa [isLive, task?, Engine.spawn, List.find?_append, hne] using hdead

lemma Clear.takeFrame (h : e.Clear n ρ) (p : Payload) : (e.takeFrame n p).Clear n ρ := by
  have hcount : (e.alterListener n fun l =>
      { l with framesReceived := l.framesReceived + 1 }).Clear n ρ :=
    h.alterListener _ fun _ => .inl rfl
  rw [Engine.takeFrame]
  split_ifs
  · exact hcount
  · refine (hcount.alterListener _ fun _ => ?_).spawn n _
    exact .inl rfl

@[simp]
lemma focus_scheduleReconnect :
    (e.scheduleReconnect n).focus n m ρ = (e.focus n m ρ).scheduleReconnect 0 := by
  rw [scheduleReconnect, scheduleReconnect, listener_focus, isHeldLive_focus]
  split_ifs
  · rfl
  · rw [focus_spawn, focus_alterListener]
    rfl

lemma focus_dropConnection (h : e.Clear n ρ) :
    (e.dropConnection n).focus n m ρ = (e.focus n m ρ).dropConnection 0 := by
  have hbeat : (e.dropHeartbeat n).focus n m ρ = (e.focus n m ρ).dropHeartbeat 0 := by
    rw [dropHeartbeat, dropHeartbeat, listener_focus]
    cases hbeat : (e.listener n).heartbeat with
    | none => rfl
    | some i => exact focus_cancel fun hi => h.heartbeat i hi hbeat
  rw [dropConnection, focus_alterListener, hbeat]
  rfl

lemma focus_disconnected (h : e.Clear n ρ) :
    (e.disconnected n).focus n m ρ = (e.focus n m ρ).disconnected 0 := by
  rw [disconnected_eq, disconnected_eq, ← focus_dropConnection h, listener_focus]
  split_ifs
  · exact focus_scheduleReconnect
  · rfl

@[simp]
lemma focus_takeFrame (p : Payload) :
    (e.takeFrame n p).focus n m ρ = (e.focus n m ρ).takeFrame 0 p := by
  rw [takeFrame, takeFrame]
  split_ifs
  · exact focus_alterListener _
  · rw [focus_spawn, focus_alterListener, focus_alterListener]
    rfl

lemma focus_closed (h : e.Clear n ρ) (i : TaskId) (failure : Option Failure) :
    (e.closed n i failure).focus n m ρ = (e.focus n m ρ).closed 0 i failure := by
  rw [closed.eq_def, closed.eq_def]
  split
  · exact focus_finishTask i
  · rw [focus_finishTask, focus_disconnected h]

lemma focus_endConnection (h : e.Clear n ρ) (i : TaskId) (socket : Nat) :
    (e.endConnection n i socket).focus n m ρ = (e.focus n m ρ).endConnection 0 i socket := by
  have hdelay : (e.focus n m ρ).feed.closeDelay socket = e.feed.closeDelay socket := rfl
  rw [endConnection, endConnection, hdelay]
  split_ifs
  · exact focus_closed (e := { e with feed := (e.feed.close socket).1 }) (h.withFeed _) i _
  · exact focus_awaitTime (e := { e with feed := (e.feed.close socket).1 }) i _ _

lemma next?_since {feed : Feed} (hm : m ≤ feed.read.length) (socket : Nat) :
    (feed.since m).next? socket = (feed.next? socket).map fun r => (r.1, r.2.since m) := by
  rw [Feed.next?, Feed.next?, show (feed.since m).sockets = feed.sockets from rfl]
  cases hs : feed.sockets[socket]? with
  | none => rfl
  | some s =>
    cases hinbox : s.inbox with
    | nil => simp only [hinbox, Option.map_none]
    | cons a rest =>
      simp only [hinbox, Option.map_some, Feed.since, List.drop_append_of_le_length hm]
      rfl

lemma focus_readFrom (h : e.Clear n ρ) (hm : m ≤ e.feed.read.length) (i : TaskId)
    (socket fuel : Nat) :
    (e.readFrom n i socket fuel).focus n m ρ = (e.focus n m ρ).readFrom 0 i socket fuel := by
  induction fuel generalizing e with
  | zero => exact focus_await i _ _
  | succ fuel ih =>
    rw [readFrom, readFrom, feed_focus, next?_since hm]
    cases hnext : e.feed.next? socket with
    | none => exact focus_await i _ _
    | some r =>
      obtain ⟨a, feed⟩ := r
      have hread : m ≤ feed.read.length := by
        rw [(next?_eq_some hnext).2, List.length_append]
        exact Nat.le_add_right_of_le hm
      cases a with
      | message msg =>
        cases msg with
        | frame p =>
          refine (ih (e := takeFrame n p { e with feed })
            ((h.withFeed feed).takeFrame p) ?_).trans ?_
          · rw [feed_takeFrame]
            exact hread
          · rw [focus_takeFrame]
            rfl
        | error => exact focus_endConnection (e := { e with feed }) (h.withFeed feed) i socket
        | control => exact ih (e := { e with feed }) (h.withFeed feed) hread
      | ended => exact focus_endConnection (e := { e with feed }) (h.withFeed feed) i socket
      | failed f => exact focus_endConnection (e := { e with feed }) (h.withFeed feed) i socket

lemma focus_read (h : e.Clear n ρ) (hm : m ≤ e.feed.read.length) (i : TaskId) (socket : Nat) :
    (e.read n i socket).focus n m ρ = (e.focus n m ρ).read 0 i socket :=
  focus_readFrom h hm i socket _

lemma focus_connected (h : e.Clear n ρ) (hm : m ≤ e.feed.read.length) (i : TaskId) (a : Attempt) :
    (e.connected n i a).focus n m ρ = (e.focus n m ρ).connected 0 i a := by
  have hlength : (e.focus n m ρ).feed.sockets.length = e.feed.sockets.length := rfl
  rw [connected, connected, hlength]
  split
  · rw [focus_finishTask, focus_disconnected h]
  · have hbeat : ((alterListener n (fun l => { l with
        socket := some e.feed.sockets.length, phase := .connected
        heartbeat := some e.nextTask }) { e with feed := e.feed.accept a }).spawn n
          (.rest e.feed.sockets.length)).Clear n ρ := by
      refine ((h.withFeed (e.feed.accept a)).alterListener _ fun _ => ?_).spawn n _
      exact .inr rfl
    dsimp only
    rw [focus_read hbeat hm, focus_spawn, focus_alterListener]
    rfl

lemma focus_connect (h : e.Clear n ρ) (hm : m ≤ e.feed.read.length) (i : TaskId) :
    (e.connect n i).focus n m ρ = (e.focus n m ρ).connect 0 i := by
  obtain ⟨a, ha⟩ : ∃ a, a = (e.feed.attempt e.timing.feedUrl).2 := ⟨_, rfl⟩
  obtain ⟨e₁, he₁⟩ : ∃ e₁, e₁ = { e.alterListener n fun l => { l with
      phase := .connecting, connectAttempts := l.connectAttempts + 1, hasSession := true } with
      feed := (e.feed.attempt e.timing.feedUrl).1 } := ⟨_, rfl⟩
  have hclear : e₁.Clear n ρ := by
    rw [he₁]
    refine (h.alterListener _ fun _ => ?_).withFeed _
    exact .inl rfl
  have hread : m ≤ e₁.feed.read.length := by
    rw [he₁]
    exact hm
  have hconnect : e.connect n i = if a.delay = 0 then e₁.connected n i a
      else e₁.awaitTime i (.connected a) (seconds a.delay) := by
    rw [he₁, ha]
    rfl
  have hfocus : e₁.focus n m ρ = { (e.focus n m ρ).alterListener 0 fun l => { l with
      phase := .connecting, connectAttempts := l.connectAttempts + 1, hasSession := true } with
      feed := ((e.focus n m ρ).feed.attempt e.timing.feedUrl).1 } := by
    rw [he₁, ← focus_alterListener]
    rfl
  have hconnect' : (e.focus n m ρ).connect 0 i = if a.delay = 0 then
      (e₁.focus n m ρ).connected 0 i a
      else (e₁.focus n m ρ).awaitTime i (.connected a) (seconds a.delay) := by
    rw [hfocus, ha]
    rfl
  rw [hconnect, hconnect']
  split_ifs
  · exact focus_connected hclear hread i a
  · exact focus_awaitTime i _ _

@[simp]
lemma focus_sent (i : TaskId) (socket : Nat) (failure : Option Failure) :
    (e.sent i socket failure).focus n m ρ = (e.focus n m ρ).sent i socket failure := by
  rw [sent, sent]
  split_ifs
  · exact focus_finishTask i
  · exact focus_awaitTime i _ _

lemma send_since (feed : Feed) (socket : Nat) (text : String) :
    (feed.since m).send socket text =
      ((feed.send socket text).1.since m, (feed.send socket text).2) := by
  rw [Feed.send, Feed.send, show (feed.since m).sockets = feed.sockets from rfl]
  cases feed.sockets[socket]?.bind Socket.sendFails with
  | none => rfl
  | some f => rfl

@[simp]
lemma focus_beat (i : TaskId) (socket : Nat) :
    (e.beat i socket).focus n m ρ = (e.focus n m ρ).beat i socket := by
  have hdelay : (e.focus n m ρ).feed.sendDelay socket = e.feed.sendDelay socket := rfl
  rw [beat, beat, hdelay, feed_focus, send_since]
  dsimp only
  split_ifs
  · exact focus_sent (e := { e with feed := (e.feed.send socket heartbeat).1 }) i socket _
  · exact focus_awaitTime (e := { e with feed := (e.feed.send socket heartbeat).1 }) i _ _

@[simp]
lemma focus_reconnect (i : TaskId) :
    (e.reconnect n i).focus n m ρ = (e.focus n m ρ).reconnect 0 i := by
  rw [reconnect, reconnect, focus_finishTask, ← focus_alterListener, listener_focus]
  split_ifs
  · rw [focus_spawn, focus_alterListener]
    rfl
  · rfl

/-! ## Frames -/

@[simp]
lemma focus_finishFrame (i : TaskId) :
    (e.finishFrame n i).focus n m ρ = (e.focus n m ρ).finishFrame 0 i := by
  have hsettled : ((e.finishTask i).enqueue (.settled n i)).focus n m ρ =
      ((e.focus n m ρ).finishTask i).enqueue (.settled 0 i) := by
    rw [focus_enqueue, focus_finishTask, Call.inFocus, if_pos rfl]
  have hany : ∀ e₁ : Engine, ((e₁.focus n m ρ).tasks.any fun t => t.wait.gathers i) =
      e₁.tasks.any fun t => t.wait.gathers i := fun e₁ => List.any_map
  rw [finishFrame, finishFrame, ← hsettled, hany]
  split_ifs
  · exact focus_enqueue _
  · rfl

@[simp]
lemma focus_gathered (i : TaskId) :
    (e.gathered i).focus n m ρ = (e.focus n m ρ).gathered i := by
  have hwithout := focus_mapTasks (n := n) (m := m) (ρ := ρ) (e := e)
    (f := fun (t : Task) => { t with wait := t.wait.without i }) fun _ => rfl
  rw [gathered, gathered, focus_wake fun _ => rfl, hwithout]

lemma focus_progress (i : TaskId)
    (handle : Registry → Int → Nat → Pipeline → Pipeline × Progress) :
    (e.progress n i handle).focus n m ρ = (e.focus n m ρ).progress 0 i handle := by
  rw [progress, progress, getElem?_focus]
  cases e.stations[n]? with
  | none => exact focus_finishTask i
  | some s =>
    have hstation : ∀ p : Pipeline, focus n m ρ (alterStation n (fun s => { s with pipeline := p })
        { e with network := p.network }) = alterStation 0 (fun s => { s with pipeline := p })
          { e.focus n m ρ with network := p.network } := fun p => focus_alterStation _
    dsimp only
    rw [show (e.focus n m ρ).epoch = e.epoch from rfl, micros_focus,
      show (e.focus n m ρ).network = e.network from rfl]
    generalize handle s.registry e.epoch e.micros { s.pipeline with network := e.network } = r
    obtain ⟨p, progress⟩ := r
    cases progress with
    | wait delay stage =>
      dsimp only
      rw [focus_awaitTime, hstation]
      rfl
    | done handled =>
      dsimp only
      split
      · have hdone := focus_finishFrame (n := n) (m := m) (ρ := ρ) (e := alterStation n
          (fun s => { s with pipeline := p }) { e with network := p.network }) i
        rw [hstation] at hdone
        exact congrArg (fun e : Engine => { e with interrupted := true }) hdone
      · rw [focus_finishFrame, hstation]
        rfl

/-! ## Settings -/

lemma focus_keep (s : Session) : (e.keep n s).focus n m ρ = (e.focus n m ρ).keep 0 s :=
  focus_alterStation (e := { e with disk := s.disk, nextSerial := s.nextSerial }) _

/-- The last one of the stations is the only one in focus. -/
lemma newest?_of_focus {s : Station} (hs : (e.focus n m ρ).stations = [s]) :
    e.newest? = some n ∧ e.stations.getLast? = some s ∧ e.stations.length = n + 1 := by
  have hstations : e.stations = e.stations.take n ++ [s] := by
    rw [← hs, stations_focus, List.take_append_drop]
  have hlength : e.stations.length = n + 1 := by
    have hdrop := congrArg List.length hs
    rw [stations_focus, List.length_drop, List.length_singleton] at hdrop
    omega
  have hempty : e.stations.isEmpty = false := by
    rw [hstations]
    simp
  refine ⟨?_, ?_, hlength⟩
  · rw [newest?, hempty, hlength]
    rfl
  · rw [hstations]
    exact List.getLast?_concat ..

/-- A look at the settings file is one of the newest station. -/
lemma focus_refresh (hstation : ∃ s, (e.focus n m ρ).stations = [s]) :
    e.refresh.1.focus n m ρ = (e.focus n m ρ).refresh.1 := by
  obtain ⟨s, hs⟩ := hstation
  obtain ⟨hnewest, hlast, -⟩ := newest?_of_focus hs
  have hnewest' : (e.focus n m ρ).newest? = some 0 := by rw [newest?, hs]; rfl
  have hlast' : (e.focus n m ρ).stations.getLast? = some s := by rw [hs]; rfl
  have hsession : (e.focus n m ρ).session s = e.session s := rfl
  have hstamp : (e.focus n m ρ).store.stamp? (e.focus n m ρ).disk = e.store.stamp? e.disk := rfl
  have htaken : (e.focus n m ρ).stamp = e.stamp := rfl
  rw [refresh, refresh]
  simp only [hnewest, hlast, hnewest', hlast', hsession, hstamp, htaken]
  split_ifs
  · rfl
  · split
    · exact focus_keep _
    · rw [setWebhookUrl, focus_alterStation]
      congr 1
      exact congrArg (fun e' : Engine => { e' with stamp := e.store.stamp? e.disk }) (focus_keep _)

lemma focus_operate {α : Type} (s : Station) (f : Session → Session × α) :
    (e.operate n s f).1.focus n m ρ = ((e.focus n m ρ).operate 0 s f).1 := by
  have hsession : (e.focus n m ρ).session s = e.session s := rfl
  rw [operate, operate, hsession]
  generalize f (e.session s) = r
  obtain ⟨session, a⟩ := r
  dsimp only
  rw [← focus_keep]
  refine focus_mapTasks fun t => ?_
  cases hwork : t.work with
  | resume stage => simp only [Task.inFocus, hwork]
  | _ => simp only [Task.inFocus, hwork]

/-! ## Stopping -/

lemma focus_endStop (failure : Option Failure) :
    (e.endStop failure).focus n m ρ = (e.focus n m ρ).endStop failure := rfl

lemma focus_leaveSession : (e.leaveSession n).focus n m ρ = (e.focus n m ρ).leaveSession 0 := by
  rw [leaveSession, leaveSession, focus_endStop, focus_alterListener, listener_focus]
  rfl

lemma focus_outsideAwaits (wait : Wait) :
    (e.outsideAwaits wait).focus n m ρ = (e.focus n m ρ).outsideAwaits wait :=
  congrArg (fun e : Engine => { e with isAwake := false }) (focus_await outside .outside wait)

lemma focus_drain : (e.drain n).focus n m ρ = (e.focus n m ρ).drain 0 := by
  have hfold : ∀ (ids : List TaskId) (e : Engine),
      (ids.foldl (fun e i => e.enqueue (.gathered i)) e).focus n m ρ =
        ids.foldl (fun e i => e.enqueue (.gathered i)) (e.focus n m ρ) := by
    intro ids
    induction ids with
    | nil => exact fun _ => rfl
    | cons i ids ih =>
      intro e
      rw [List.foldl_cons, List.foldl_cons, ih, focus_enqueue]
      rfl
  rw [drain, drain, listener_focus]
  simp only [isLive_focus]
  split_ifs
  · exact focus_leaveSession
  · have hawaits := focus_outsideAwaits (n := n) (m := m) (ρ := ρ)
      (e := ((e.listener n).events.filter fun i => !e.isLive i).foldl
        (fun e i => e.enqueue (.gathered i)) e) (.gathering (e.listener n).events)
    rw [hfold] at hawaits
    exact congrArg (fun e : Engine => { e with stopping := some .draining }) hawaits

lemma focus_socketClosed (failure : Option Failure) :
    (e.socketClosed n failure).focus n m ρ = (e.focus n m ρ).socketClosed 0 failure := by
  rw [socketClosed.eq_def, socketClosed.eq_def]
  split
  · rfl
  · rw [focus_drain, focus_alterListener]

lemma focus_closeSocket : (e.closeSocket n).focus n m ρ = (e.focus n m ρ).closeSocket 0 := by
  rw [closeSocket.eq_def, closeSocket.eq_def, listener_focus]
  cases (e.listener n).socket with
  | none => exact focus_drain
  | some socket =>
    have hdelay : (e.focus n m ρ).feed.closeDelay socket = e.feed.closeDelay socket := rfl
    dsimp only
    rw [hdelay]
    split_ifs
    · exact focus_socketClosed (e := { e with feed := (e.feed.close socket).1 }) _
    · have hawaits := focus_awaitTime (n := n) (m := m) (ρ := ρ)
        (e := { e with feed := (e.feed.close socket).1 }) outside .outside
        (seconds (e.feed.closeDelay socket))
      exact congrArg (fun e' : Engine => { e' with
        isAwake := false, stopping := some (.closing (e.feed.close socket).2) }) hawaits

/-- The tasks to be cancelled are not the look at the settings file, which is done. -/
lemma focus_cancelNext (hρ : ∀ r, ρ = some r → e.isLive r = false) (ids : List TaskId) :
    (e.cancelNext n ids).focus n m ρ = (e.focus n m ρ).cancelNext 0 ids := by
  induction ids with
  | nil =>
    rw [cancelNext, cancelNext, closeAndDrain, closeAndDrain, focus_closeSocket,
      focus_alterListener]
  | cons i ids ih =>
    rw [cancelNext, cancelNext, isLive_focus]
    split_ifs
    · have hawaits := focus_outsideAwaits (n := n) (m := m) (ρ := ρ) (e := e.cancel i)
        (.completion i)
      rw [focus_cancel (hρ i)] at hawaits
      exact congrArg (fun e : Engine => { e with stopping := some (.cancelling ids) }) hawaits
    · exact ih

lemma focus_stopListening (hρ : ∀ r, ρ = some r → e.isLive r = false) :
    (e.stopListening n).focus n m ρ = (e.focus n m ρ).stopListening 0 := by
  rw [stopListening, stopListening, listener_focus]
  split_ifs
  · rw [← focus_alterListener]
    exact focus_cancelNext (e := e.alterListener n _) hρ _
  · rfl

/-- The party outside wakes up, or goes on with stopping. -/
lemma focus_wakeOutside (hstation : ∃ s, (e.focus n m ρ).stations = [s])
    (hstopping : ∀ st, e.stopping = some st →
      (∀ r, ρ = some r → e.isLive r = false) ∧ st ≠ .refresher) :
    e.wakeOutside.focus n m ρ = (e.focus n m ρ).wakeOutside := by
  obtain ⟨s, hs⟩ := hstation
  have hlast : e.stations.length - 1 = n := by
    rw [(newest?_of_focus hs).2.2, Nat.add_sub_cancel]
  have hlast' : (e.focus n m ρ).stations.length - 1 = 0 := by rw [hs]; rfl
  have hstage : (e.focus n m ρ).stopping = Stopping.inFocus e.stopping := rfl
  rw [wakeOutside.eq_def, wakeOutside.eq_def]
  dsimp only
  rw [hlast, hlast', hstage]
  cases hst : e.stopping with
  | none => rfl
  | some st =>
    obtain ⟨hρ, hne⟩ := hstopping st hst
    cases st with
    | refresher => exact absurd rfl hne
    | cancelling ids => exact focus_cancelNext hρ ids
    | closing failure => exact focus_socketClosed failure
    | draining => exact focus_leaveSession

/-! ## Calls -/

/-- What is seen of the end of a task. -/
lemma inFocus_cancelled (h : ρ = some t.id → t.cancelled = false) :
    (t.inFocus n ρ).cancelled = t.cancelled := by
  by_cases hid : ρ = some t.id
  · simp [Task.inFocus, h hid]
  · simp [Task.inFocus, hid]

lemma focus_watch (i : TaskId) : (e.watch i).focus n m ρ = (e.focus n m ρ).watch i := by
  have hrequested : (e.focus n m ρ).isRequested = e.isRequested := rfl
  rw [watch, watch, hrequested]
  split_ifs
  · rw [focus_enqueue, focus_finishTask]
    rfl
  · exact focus_await i _ _

/-- A turn of a task of the station, other than the end of the look at the settings file. -/
lemma focus_runTask (hstation : ∃ s, (e.focus n m ρ).stations = [s]) (hclear : e.Clear n ρ)
    (hm : m ≤ e.feed.read.length) (hhome : t.station = n ∨ t.work = .outside)
    (hcancelled : ρ = some t.id → t.cancelled = false)
    (hstopping : t.work = .outside → ∀ st, e.stopping = some st →
      (∀ r, ρ = some r → e.isLive r = false) ∧ st ≠ .refresher) :
    (e.runTask t).focus n m ρ = (e.focus n m ρ).runTask (t.inFocus n ρ) := by
  have hid : (t.inFocus n ρ).id = t.id := rfl
  have hwork : (t.inFocus n ρ).work = t.work := rfl
  have hat : t.station = n → (t.inFocus n ρ).station = 0 := fun h => if_pos (.inr h)
  have htiming : (e.focus n m ρ).timing = e.timing := rfl
  rw [runTask, runTask, inFocus_cancelled hcancelled, hid, hwork]
  split_ifs
  · rw [← focus_endCancelled]
    dsimp only
    split
    · exact focus_enqueue _
    · rfl
  · cases hw : t.work with
    | outside => exact focus_wakeOutside hstation (hstopping hw)
    | rest socket => exact focus_awaitTime _ _ _
    | beat socket => exact focus_beat _ _
    | sent socket failure => exact focus_sent _ _ _
    | pause =>
      dsimp only
      rw [htiming]
      split
      · exact focus_awaitTime _ _ _
      · exact focus_finishTask _
    | idle => exact focus_awaitTime _ _ _
    | refresh =>
      dsimp only
      rw [focus_awaitTime, focus_refresh hstation]
      rfl
    | vigil => exact focus_watch _
    | _ =>
      have hk : t.station = n := hhome.resolve_right (by rw [hw]; rintro ⟨⟩)
      rw [hat hk, hk]
      first
        | exact focus_connect hclear hm _
        | exact focus_connected hclear hm _ _
        | exact focus_read hclear hm _ _
        | exact focus_closed hclear _ _
        | exact focus_reconnect _
        | exact focus_progress _ _

lemma focus_request : e.request.focus n m ρ = (e.focus n m ρ).request := by
  rw [request, request, focus_wake fun _ => rfl]
  rfl

/-- A timer goes off. -/
lemma focus_goOff (a : Alarm) : (e.goOff a).focus n m ρ = (e.focus n m ρ).goOff a := by
  cases a with
  | ring i number => exact focus_wake fun _ => rfl
  | release => exact focus_wake fun _ => rfl
  | request => exact focus_request

/-- A change of another station is not seen. -/
lemma focus_alterOther (hstation : ∃ s, (e.focus n m ρ).stations = [s]) {k : Nat} (hk : k ≠ n)
    (f : Station → Station) : (e.alterStation k f).focus n m ρ = e.focus n m ρ := by
  obtain ⟨s, hs⟩ := hstation
  have hlength := (newest?_of_focus hs).2.2
  have hdrop : (e.stations.modify k f).drop n = e.stations.drop n := by
    refine List.ext_getElem? fun j => ?_
    rw [List.getElem?_drop, List.getElem?_modify, List.getElem?_drop]
    by_cases hj : k = n + j
    · rw [List.getElem?_eq_none (by omega)]
      rfl
    · simp [hj]
  rw [focus, alterStation, hdrop]
  rfl

/-- A frame is let go of, by the newest station or by another one. -/
lemma focus_settled (hstation : ∃ s, (e.focus n m ρ).stations = [s]) (k : Nat) (i : TaskId) :
    (e.settled k i).focus n m ρ =
      (e.focus n m ρ).settled (if k = n then 0 else 1) i := by
  rw [settled, settled]
  split_ifs with hk
  · rw [hk]
    exact focus_alterListener _
  · obtain ⟨s, hs⟩ := hstation
    have hout : (e.focus n m ρ).alterListener 1 (fun l => { l with events := l.events.erase i }) =
        e.focus n m ρ := by
      rw [alterListener, alterStation, hs, List.modify_eq_self (by simp)]
      rw [← hs]
    rw [hout]
    exact focus_alterOther ⟨s, hs⟩ hk _

/-! ## What happens outside -/

lemma focus_arrive (a : Arrival) : (e.arrive a).focus n m ρ = (e.focus n m ρ).arrive a := by
  rw [arrive, arrive, focus_wake fun _ => rfl]
  rfl

lemma focus_sleep (delay : Binary64) :
    focus n m ρ { e.awaitTime outside .outside delay with isAwake := false } =
      { (e.focus n m ρ).awaitTime outside .outside delay with isAwake := false } :=
  congrArg (fun e : Engine => { e with isAwake := false }) (focus_awaitTime outside .outside delay)

lemma focus_startListener :
    (e.startListener n).focus n m ρ = (e.focus n m ρ).startListener 0 := by
  rw [startListener, startListener, listener_focus]
  split_ifs
  · rfl
  · rw [focus_spawn, focus_alterListener]
    rfl

lemma focus_startRefresher :
    (e.startRefresher n).focus n m ρ = (e.focus n m ρ).spawn 0 .idle := by
  rw [startRefresher, focus_spawn]
  rfl

end Engine

end FeedWatch
