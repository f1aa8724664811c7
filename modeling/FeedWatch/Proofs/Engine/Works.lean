import FeedWatch.Proofs.Engine.Timers
import FeedWatch.Proofs.Listener.View

/-!
# What the engine does

Whatever the engine does to its tasks, its schedule and what it has read comes down to a few acts
(`Act`): calls join the end of the queue, a timer is set for a task or called off, tasks begin,
change and end, and arrivals are read.  There is one lemma for each function of the engine, which
says that it is done in such acts one after the other (`Works`); so what acts preserve, all that the
engine does preserves.

Main statements: a turn is done in acts (`Works.runTask`), and so is any call (`Works.make`).  No
timer is called off but one of a task that ends because it was cancelled, and no frame comes into
flight but in the turn of a task that handles one.
-/

namespace FeedWatch

/-- Whether handling a frame has begun and waits. -/
def Work.isInFlight : Work → Bool
  | resume _ => true
  | _ => false

/-- A task stays the same task with its timer and is not saved from its end, and its frame is in
flight only if it was, or is begun. -/
structure Task.Becomes (begun : TaskId → Nat → Prop) (t t' : Task) : Prop where
  id : t'.id = t.id
  station : t'.station = t.station
  timer : t'.timer = t.timer
  ends : t.cancelled = true → t'.cancelled = true
  flight : t'.work.isInFlight = true → t.work.isInFlight = true ∨ begun t.id t.station

namespace Engine

open Relation

/-- What is done at a time.  Timers are called off if `off` allows it, and frames are begun if
`begun` does. -/
inductive Act (off : Nat → Prop) (begun : TaskId → Nat → Prop) (e : Engine) : Engine → Prop
  | rest {e' : Engine} (htasks : e'.tasks = e.tasks) (hschedule : e'.schedule = e.schedule)
    (hnext : e'.nextTask = e.nextTask) (hread : e.feed.read <+: e'.feed.read) : Act off begun e e'
  | enqueue (c : Call) (hc : c.ring? = none) : Act off begun e (e.enqueue c)
  | spawn (k : Nat) (w : Work) (hw : w.isInFlight = false) : Act off begun e (e.spawn k w)
  | map (f : Task → Task) (hf : ∀ t ∈ e.tasks, t.Becomes begun (f t)) :
    Act off begun e { e with tasks := e.tasks.map f }
  | wake (p : Task → Bool) : Act off begun e (e.wake p)
  | awaitTime (i : TaskId) (w : Work) (delay : Binary64)
    (hw : w.isInFlight = true → ∀ t ∈ e.tasks, t.id = i → begun i t.station) :
    Act off begun e (e.awaitTime i w delay)
  | leave (i : TaskId) : Act off begun e { e with tasks := e.tasks.filter (·.id != i) }
  | callOff (n : Nat) (hn : off n) : Act off begun e { e with schedule := e.schedule.callOff n }

/-- Acts are done one after the other. -/
def Works (off : Nat → Prop) (begun : TaskId → Nat → Prop) : Engine → Engine → Prop :=
  ReflTransGen (Act off begun)

variable {off off' : Nat → Prop} {begun begun' : TaskId → Nat → Prop} {e e' e'' : Engine}

lemma Act.mono (h : Act off begun e e') (hoff : ∀ n, off n → off' n)
    (hbegun : ∀ j k, begun j k → begun' j k) : Act off' begun' e e' := by
  cases h with
  | rest htasks hschedule hnext hread => exact .rest htasks hschedule hnext hread
  | enqueue c hc => exact .enqueue c hc
  | spawn k w hw => exact .spawn k w hw
  | map f hf =>
    exact .map f fun t ht => { hf t ht with
      flight := fun hflight => ((hf t ht).flight hflight).imp_right (hbegun _ _) }
  | wake p => exact .wake p
  | awaitTime i w delay hw =>
    exact .awaitTime i w delay fun hflight t ht hid => hbegun _ _ (hw hflight t ht hid)
  | leave i => exact .leave i
  | callOff n hn => exact .callOff n (hoff n hn)

namespace Works

lemma refl (e : Engine) : Works off begun e e := ReflTransGen.refl

lemma act (h : Act off begun e e') : Works off begun e e' := ReflTransGen.single h

lemma trans (h : Works off begun e e') (h' : Works off begun e' e'') : Works off begun e e'' :=
  ReflTransGen.trans h h'

lemma mono (h : Works off begun e e') (hoff : ∀ n, off n → off' n)
    (hbegun : ∀ j k, begun j k → begun' j k) : Works off' begun' e e' :=
  ReflTransGen.mono (fun _ _ hact => hact.mono hoff hbegun) _ _ h

/-! ## Tasks -/

lemma same (htasks : e'.tasks = e.tasks) (hschedule : e'.schedule = e.schedule)
    (hnext : e'.nextTask = e.nextTask) (hread : e'.feed.read = e.feed.read) :
    Works off begun e e' := act (.rest htasks hschedule hnext (by rw [hread]))

lemma enqueue (c : Call) (hc : c.ring? = none) (e : Engine) : Works off begun e (e.enqueue c) :=
  act (.enqueue c hc)

lemma spawn (k : Nat) {w : Work} (hw : w.isInFlight = false) (e : Engine) :
    Works off begun e (e.spawn k w) := act (.spawn k w hw)

lemma wake (p : Task → Bool) (e : Engine) : Works off begun e (e.wake p) := act (.wake p)

lemma alterTask (i : TaskId) {f : Task → Task} (hf : ∀ t : Task, t.Becomes begun (f t)) (e : Engine) :
    Works off begun e (e.alterTask i f) := by
  refine act (.map _ fun t _ => ?_)
  split_ifs
  · exact hf t
  · exact ⟨rfl, rfl, rfl, id, .inl⟩

lemma await (i : TaskId) {w : Work} (hw : w.isInFlight = false) (wait : Wait) (e : Engine) :
    Works off begun e (e.await i w wait) := by
  refine alterTask i (fun t => ?_) e
  exact ⟨rfl, rfl, rfl, id, fun hflight => absurd hflight (Bool.eq_false_iff.1 hw)⟩

lemma awaitTime (i : TaskId) {w : Work} (hw : w.isInFlight = false) (delay : Binary64)
    (e : Engine) : Works off begun e (e.awaitTime i w delay) :=
  act (.awaitTime i w delay fun hflight => absurd hflight (Bool.eq_false_iff.1 hw))

/-- Who is outside waits for a time. -/
lemma sleep (delay : Binary64) (e : Engine) :
    Works off begun e { e.awaitTime outside .outside delay with isAwake := false } :=
  (awaitTime outside rfl delay e).trans (same rfl rfl rfl rfl)

lemma cancel (i : TaskId) (e : Engine) : Works off begun e (e.cancel i) := by
  refine (alterTask i (fun t => ?_) e).trans (wake _ _)
  exact ⟨rfl, rfl, rfl, fun _ => rfl, .inl⟩

lemma finishTask (i : TaskId) (e : Engine) : Works off begun e (e.finishTask i) :=
  (act (.leave i)).trans (wake _ _)

/-- A task that was cancelled calls its last timer off. -/
lemma endCancelled (t : Task) (hoff : ∀ n, t.timer = some n → off n) (e : Engine) :
    Works off begun e (e.endCancelled t) := by
  rw [Engine.endCancelled]
  cases htimer : t.timer with
  | none => exact finishTask t.id e
  | some n => exact (act (.callOff n (hoff n htimer))).trans (finishTask t.id _)

/-! ## The connection -/

lemma alterListener (k : Nat) (f : Listener → Listener) (e : Engine) :
    Works off begun e (e.alterListener k f) := same rfl rfl rfl rfl

lemma withFeed {feed : Feed} (hread : feed.read = e.feed.read) :
    Works off begun e { e with feed } := same rfl rfl rfl hread

lemma scheduleReconnect (k : Nat) (e : Engine) : Works off begun e (e.scheduleReconnect k) := by
  rw [Engine.scheduleReconnect]
  split_ifs
  · exact refl e
  · exact (alterListener k _ e).trans (spawn k rfl _)

lemma dropConnection (k : Nat) (e : Engine) : Works off begun e (e.dropConnection k) := by
  refine Works.trans ?_ (alterListener k _ _)
  obtain ⟨-, h⟩ | ⟨i, -, h⟩ := dropHeartbeat_cases k e
  · rw [h]
    exact refl e
  · rw [h]
    exact cancel i e

lemma disconnected (k : Nat) (e : Engine) : Works off begun e (e.disconnected k) := by
  rw [disconnected_eq]
  split_ifs
  · exact (dropConnection k e).trans (scheduleReconnect k _)
  · exact dropConnection k e

lemma takeFrame (k : Nat) (p : Payload) (e : Engine) : Works off begun e (e.takeFrame k p) := by
  have hcount : Works off begun e
      (e.alterListener k fun l => { l with framesReceived := l.framesReceived + 1 }) :=
    alterListener k _ e
  rw [Engine.takeFrame]
  split_ifs
  · exact hcount
  · exact (hcount.trans (alterListener k _ _)).trans (spawn k rfl _)

lemma closed (k : Nat) (i : TaskId) (failure : Option Failure) (e : Engine) :
    Works off begun e (e.closed k i failure) := by
  rw [closed.eq_def]
  split
  · exact finishTask i e
  · exact (disconnected k e).trans (finishTask i _)

lemma endConnection (k : Nat) (i : TaskId) (socket : Nat) (e : Engine) :
    Works off begun e (e.endConnection k i socket) := by
  have hclose : Works off begun e { e with feed := (e.feed.close socket).1 } := withFeed rfl
  rw [Engine.endConnection]
  dsimp only
  split_ifs
  · exact hclose.trans (closed k i _ _)
  · exact hclose.trans (awaitTime i rfl _ _)

lemma readFrom (k : Nat) (i : TaskId) (socket fuel : Nat) (e : Engine) :
    Works off begun e (e.readFrom k i socket fuel) := by
  induction fuel generalizing e with
  | zero => exact await i rfl _ e
  | succ fuel ih =>
    rw [Engine.readFrom]
    cases hnext : e.feed.next? socket with
    | none => exact await i rfl _ e
    | some r =>
      obtain ⟨a, feed⟩ := r
      have hread : Works off begun e { e with feed } := by
        refine act (.rest rfl rfl rfl ?_)
        rw [(next?_eq_some hnext).2]
        exact List.prefix_append _ _
      cases a with
      | message m =>
        cases m with
        | frame p => exact (hread.trans (takeFrame k p _)).trans (ih _)
        | error => exact hread.trans (endConnection k i socket _)
        | control => exact hread.trans (ih _)
      | ended => exact hread.trans (endConnection k i socket _)
      | failed f => exact hread.trans (endConnection k i socket _)

lemma connected (k : Nat) (i : TaskId) (a : Attempt) (e : Engine) :
    Works off begun e (e.connected k i a) := by
  have haccept : Works off begun e { e with feed := e.feed.accept a } := withFeed rfl
  rw [Engine.connected]
  split
  · exact (disconnected k e).trans (finishTask i _)
  · exact ((haccept.trans (alterListener k _ _)).trans (spawn k rfl _)).trans (readFrom k i _ _ _)

lemma connect (k : Nat) (i : TaskId) (e : Engine) : Works off begun e (e.connect k i) := by
  have hattempt : ∀ f, Works off begun e
      { e.alterListener k f with feed := (e.feed.attempt e.timing.feedUrl).1 } :=
    fun _ => same rfl rfl rfl rfl
  rw [Engine.connect]
  dsimp only
  split_ifs
  · exact (hattempt _).trans (connected k i _ _)
  · exact (hattempt _).trans (awaitTime i rfl _ _)

lemma sent (i : TaskId) (socket : Nat) (failure : Option Failure) (e : Engine) :
    Works off begun e (e.sent i socket failure) := by
  rw [Engine.sent]
  split_ifs
  · exact finishTask i e
  · exact awaitTime i rfl _ e

lemma beat (i : TaskId) (socket : Nat) (e : Engine) : Works off begun e (e.beat i socket) := by
  have hsend : Works off begun e { e with feed := (e.feed.send socket heartbeat).1 } :=
    withFeed (read_send socket heartbeat e.feed)
  rw [Engine.beat]
  dsimp only
  split_ifs
  · exact hsend.trans (sent i socket _ _)
  · exact hsend.trans (awaitTime i rfl _ _)

lemma reconnect (k : Nat) (i : TaskId) (e : Engine) : Works off begun e (e.reconnect k i) := by
  rw [Engine.reconnect]
  refine Works.trans ?_ (finishTask i _)
  split_ifs
  · exact ((alterListener k _ e).trans (alterListener k _ _)).trans (spawn k rfl _)
  · exact alterListener k _ e

/-! ## Frames and settings -/

lemma finishFrame (k : Nat) (i : TaskId) (e : Engine) : Works off begun e (e.finishFrame k i) := by
  have hsettled : Works off begun e ((e.finishTask i).enqueue (.settled k i)) :=
    (finishTask i e).trans (enqueue _ rfl _)
  rw [Engine.finishFrame]
  split_ifs
  · exact hsettled.trans (enqueue _ rfl _)
  · exact hsettled

lemma gathered (i : TaskId) (e : Engine) : Works off begun e (e.gathered i) := by
  refine (act (.map _ fun t _ => ?_)).trans (wake _ _)
  exact ⟨rfl, rfl, rfl, id, .inl⟩

/-- Handling a frame brings it into flight if it waits. -/
lemma progress (k : Nat) (i : TaskId)
    (handle : Registry → Int → Nat → Pipeline → Pipeline × Progress) (e : Engine) :
    Works off (fun j k' => j = i ∧ (∃ t ∈ e.tasks, t.id = i ∧ t.station = k') ∧
      ∃ s p delay stage, e.stations[k]? = some s ∧
        handle s.registry e.epoch e.micros { s.pipeline with network := e.network } =
          (p, .wait delay stage)) e (e.progress k i handle) := by
  rw [Engine.progress]
  cases hs : e.stations[k]? with
  | none => exact finishTask i e
  | some s =>
    dsimp only
    cases hr : handle s.registry e.epoch e.micros { s.pipeline with network := e.network } with
    | mk p progress =>
      have hhandled : ∀ {begun}, Works off begun e
          (alterStation k (fun s => { s with pipeline := p }) { e with network := p.network }) :=
        same rfl rfl rfl rfl
      cases progress with
      | done result =>
        dsimp only
        split
        · exact (hhandled.trans (finishFrame k i _)).trans (same rfl rfl rfl rfl)
        · exact hhandled.trans (finishFrame k i _)
      | wait delay stage =>
        refine hhandled.trans (act (.awaitTime i _ _ fun _ t ht hid => ?_))
        exact ⟨rfl, ⟨t, ht, hid, rfl⟩, s, p, delay, stage, rfl, hr⟩

lemma operate {α : Type} (k : Nat) (s : Station) (f : Session → Session × α) (e : Engine) :
    Works off begun e (e.operate k s f).1 := by
  have hkeep : Works off begun e (e.keep k (f (e.session s)).1) := same rfl rfl rfl rfl
  refine hkeep.trans (act (.map _ fun t _ => ?_))
  split
  next hwork => exact ⟨rfl, rfl, rfl, id, fun _ => .inl (by rw [hwork]; rfl)⟩
  next => exact ⟨rfl, rfl, rfl, id, .inl⟩

lemma refresh (e : Engine) : Works off begun e e.refresh.1 := by
  rw [Engine.refresh]
  split
  · split_ifs
    · exact refl e
    · split
      · exact same rfl rfl rfl rfl
      · exact same rfl rfl rfl rfl
  · exact refl e

/-! ## Stopping -/

lemma outsideAwaits (wait : Wait) (e : Engine) : Works off begun e (e.outsideAwaits wait) :=
  (await outside rfl wait e).trans (same rfl rfl rfl rfl)

lemma leaveSession (k : Nat) (e : Engine) : Works off begun e (e.leaveSession k) :=
  same rfl rfl rfl rfl

lemma drain (k : Nat) (e : Engine) : Works off begun e (e.drain k) := by
  have hfold : ∀ (ids : List TaskId) (e : Engine),
      Works off begun e (ids.foldl (fun e i => e.enqueue (.gathered i)) e) := by
    intro ids
    induction ids with
    | nil => exact fun e => refl e
    | cons i ids ih => exact fun e => (enqueue _ rfl e).trans (ih _)
  rw [Engine.drain]
  dsimp only
  split_ifs
  · exact leaveSession k e
  · exact ((hfold _ e).trans (outsideAwaits _ _)).trans (same rfl rfl rfl rfl)

lemma socketClosed (k : Nat) (failure : Option Failure) (e : Engine) :
    Works off begun e (e.socketClosed k failure) := by
  rw [socketClosed.eq_def]
  split
  · exact same rfl rfl rfl rfl
  · exact (alterListener k _ e).trans (drain k _)

lemma closeSocket (k : Nat) (e : Engine) : Works off begun e (e.closeSocket k) := by
  rw [closeSocket.eq_def]
  split
  · exact drain k e
  · rename_i socket _
    have hclose : Works off begun e { e with feed := (e.feed.close socket).1 } := withFeed rfl
    dsimp only
    split_ifs
    · exact hclose.trans (socketClosed k _ _)
    · exact (hclose.trans (awaitTime outside rfl _ _)).trans (same rfl rfl rfl rfl)

lemma cancelNext (k : Nat) (ids : List TaskId) (e : Engine) :
    Works off begun e (e.cancelNext k ids) := by
  induction ids with
  | nil => exact (alterListener k _ e).trans (closeSocket k _)
  | cons i ids ih =>
    rw [Engine.cancelNext]
    split_ifs
    · exact ((cancel i e).trans (outsideAwaits _ _)).trans (same rfl rfl rfl rfl)
    · exact ih

lemma stopListening (k : Nat) (e : Engine) : Works off begun e (e.stopListening k) := by
  rw [Engine.stopListening]
  split_ifs
  · exact (alterListener k _ e).trans (cancelNext k _ _)
  · exact same rfl rfl rfl rfl

lemma dismiss (e : Engine) : Works off begun e { e with refresher := none } := same rfl rfl rfl rfl

lemma stopWatching (e : Engine) : Works off begun e e.stopWatching := by
  rw [Engine.stopWatching]
  split
  · split_ifs
    · exact ((cancel _ e).trans (outsideAwaits _ _)).trans (same rfl rfl rfl rfl)
    · exact (dismiss e).trans (stopListening _ _)
  · exact stopListening _ e
  · exact same rfl rfl rfl rfl

lemma wakeOutside (e : Engine) : Works off begun e e.wakeOutside := by
  rw [wakeOutside.eq_def]
  dsimp only
  split
  · exact same rfl rfl rfl rfl
  · exact (dismiss e).trans (stopListening _ _)
  · exact cancelNext _ _ e
  · exact socketClosed _ _ e
  · exact leaveSession _ e

lemma watch (i : TaskId) (e : Engine) : Works off begun e (e.watch i) := by
  rw [Engine.watch]
  split_ifs
  · exact (finishTask i e).trans (enqueue _ rfl _)
  · exact await i rfl _ e

lemma request (e : Engine) : Works off begun e e.request :=
  @trans _ _ e { e with isRequested := true } _ (same rfl rfl rfl rfl) (wake _ _)

lemma arrive (a : Arrival) (e : Engine) : Works off begun e (e.arrive a) :=
  @trans _ _ e { e with feed := e.feed.arrive a } _ (same rfl rfl rfl rfl) (wake _ _)

/-! ## Starting -/

lemma startListener (k : Nat) (e : Engine) : Works off begun e (e.startListener k) := by
  rw [Engine.startListener]
  split_ifs
  · exact refl e
  · exact (alterListener k _ e).trans (spawn k rfl _)

lemma startRefresher (k : Nat) (e : Engine) : Works off begun e (e.startRefresher k) :=
  @trans _ _ e { e with refresher := some e.nextTask } _ (same rfl rfl rfl rfl) (spawn k rfl _)

/-! ## Calls -/

/-- In a turn no timer is called off but the task's own, if the task was cancelled, and no frame is
begun unless the task handles one. -/
lemma runTask {t : Task} (hoff : ∀ n, t.cancelled = true → t.timer = some n → off n)
    (hbegun : t.cancelled = false → t.work.isInFlight = true ∨ t.work.frame?.isSome = true →
      ∀ j k, begun j k) (e : Engine) : Works off begun e (e.runTask t) := by
  rw [Engine.runTask]
  split_ifs with hcancelled
  · have hend : Works off begun e (e.endCancelled t) := endCancelled t (hoff · hcancelled) e
    dsimp only
    split
    · exact hend.trans (enqueue _ rfl _)
    · exact hend
  · have hhandle := hbegun (Bool.eq_false_iff.2 hcancelled)
    cases hw : t.work with
    | outside => exact wakeOutside e
    | connect => exact connect _ _ e
    | connected a => exact connected _ _ a e
    | read socket => exact readFrom _ _ socket _ e
    | closed failure => exact closed _ _ failure e
    | rest socket => exact awaitTime _ rfl _ e
    | beat socket => exact beat _ socket e
    | sent socket failure => exact sent _ socket failure e
    | pause =>
      dsimp only
      split
      · exact awaitTime _ rfl _ e
      · exact finishTask _ e
    | reconnect => exact reconnect _ _ e
    | receive p =>
      rw [hw] at hhandle
      exact (progress _ _ _ e).mono (fun _ => id) fun j k _ => hhandle (.inr rfl) j k
    | resume s =>
      rw [hw] at hhandle
      exact (progress _ _ _ e).mono (fun _ => id) fun j k _ => hhandle (.inl rfl) j k
    | idle => exact awaitTime _ rfl _ e
    | refresh => exact (refresh e).trans (awaitTime _ rfl _ _)
    | vigil => exact watch _ e

/-- Nothing but a turn calls a timer off, or begins a frame. -/
lemma make {c : Call}
    (hoff : ∀ t ∈ e.tasks, c = .turn t.id → t.cancelled = true → ∀ n, t.timer = some n → off n)
    (hbegun : ∀ t ∈ e.tasks, c = .turn t.id → ∀ j k, begun j k) :
    Works off begun e (e.make c) := by
  cases c with
  | turn i =>
    rw [Engine.make]
    cases ht : e.task? i with
    | none => exact refl e
    | some t =>
      have hmem := mem_of_task? ht
      have hturn : Call.turn i = .turn t.id := congrArg Call.turn (id_of_task? ht).symm
      exact runTask (fun n hcancelled => hoff t hmem hturn hcancelled n)
        (fun _ _ => hbegun t hmem hturn) e
  | alarm a =>
    cases a with
    | ring i n => exact wake _ e
    | release => exact wake _ e
    | request => exact request e
  | settled k i => exact same rfl rfl rfl rfl
  | gathered i => exact gathered i e

end Works

end Engine

end FeedWatch
