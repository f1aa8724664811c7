import FeedWatch.Proofs.Listener.Pulse

/-!
# Apart from the connection

While a listener runs, one task makes its connection, reads from it, or waits before a reconnect
(`Engine.Linked`).  `Engine.Apart` says that something happens apart from it: the task stays where
it is, and the listener lets go of frames at most.  There is one lemma for each function of the
engine that a running listener comes to in a turn of another task.  Main statement: a call is apart
from a task of the connection, or it is the task's own turn, or the timer goes off that the task
waits for (`Engine.apart_make`).
-/

namespace FeedWatch

/-- A task stays where it is; if it waits for its turn or for a timer, it still does. -/
structure Task.Stays (t t' : Task) : Prop where
  id : t'.id = t.id
  work : t'.work = t.work
  timer : t'.timer = t.timer
  turn : t.wait = .turn → t'.wait = .turn
  timed : ∀ n, t.wait = .timer n → t'.wait = .timer n

lemma Task.Stays.refl (t : Task) : t.Stays t := ⟨rfl, rfl, rfl, fun h => h, fun _ h => h⟩

lemma Task.Stays.trans {t t' t'' : Task} (h : t.Stays t') (h' : t'.Stays t'') : t.Stays t'' :=
  ⟨h'.id.trans h.id, h'.work.trans h.work, h'.timer.trans h.timer, fun ht => h'.turn (h.turn ht),
    fun n hn => h'.timed n (h.timed n hn)⟩

namespace Engine

/-- A task has to do with the connection, and is not cancelled. -/
structure Linked (t : Task) (e : Engine) : Prop where
  mem : t ∈ e.tasks
  going : t.cancelled = false
  link : ∃ l, t.work.duty = .link l

/-- Something happens apart from a task of the connection. -/
structure Apart (i : TaskId) (e e' : Engine) : Prop where
  stays : ∀ t, Linked t e → t.id = i → ∃ t', Linked t' e' ∧ t.Stays t'
  listener : { e'.listener 0 with events := [], framesReceived := 0 } =
    { e.listener 0 with events := [], framesReceived := 0 }
  urls : e'.feed.urls = e.feed.urls
  read : e'.feed.read = e.feed.read
  timing : e'.timing = e.timing

variable {e e' : Engine} {i j : TaskId} {k : Nat} {t : Task} {w : Work} {fifo : Prop}

namespace Apart

lemma of_tasks (hstays : ∀ t, Linked t e → t.id = i → ∃ t', Linked t' e' ∧ t.Stays t')
    (hlistener : e'.listener 0 = e.listener 0) (hfeed : e'.feed = e.feed)
    (htiming : e'.timing = e.timing) : Apart i e e' :=
  ⟨hstays, by rw [hlistener], by rw [hfeed], by rw [hfeed], htiming⟩

lemma same (htasks : e'.tasks = e.tasks) (hlistener : e'.listener 0 = e.listener 0)
    (hfeed : e'.feed = e.feed) (htiming : e'.timing = e.timing) : Apart i e e' :=
  of_tasks (fun t ht _ => ⟨t, ⟨htasks ▸ ht.mem, ht.going, ht.link⟩, .refl t⟩) hlistener hfeed
    htiming

lemma refl (e : Engine) : Apart i e e := same rfl rfl rfl rfl

lemma trans {m : Engine} (h : Apart i e m) (h' : Apart i m e') : Apart i e e' := by
  refine ⟨fun t ht hid => ?_, h'.listener.trans h.listener, h'.urls.trans h.urls,
    h'.read.trans h.read, h'.timing.trans h.timing⟩
  obtain ⟨t₁, ht₁, hstays⟩ := h.stays t ht hid
  obtain ⟨t', ht', hstays'⟩ := h'.stays t₁ ht₁ (hstays.id.trans hid)
  exact ⟨t', ht', hstays.trans hstays'⟩

lemma phase (h : Apart i e e') : (e'.listener 0).phase = (e.listener 0).phase :=
  (congrArg Listener.phase h.listener :)

lemma running (h : Apart i e e') : (e'.listener 0).running = (e.listener 0).running :=
  (congrArg Listener.running h.listener :)

lemma attempts (h : Apart i e e') :
    (e'.listener 0).connectAttempts = (e.listener 0).connectAttempts :=
  (congrArg Listener.connectAttempts h.listener :)

lemma scheduled (h : Apart i e e') :
    (e'.listener 0).reconnectsScheduled = (e.listener 0).reconnectsScheduled :=
  (congrArg Listener.reconnectsScheduled h.listener :)

/-! ### Tasks -/

/-- All tasks are changed; those of the connection stay. -/
lemma map {f : Task → Task} (hstays : ∀ t, Linked t e → t.id = i → t.Stays (f t))
    (hcancelled : ∀ t, Linked t e → t.id = i → (f t).cancelled = t.cancelled) (s : Schedule) :
    Apart i e { e with tasks := e.tasks.map f, schedule := s } := by
  refine of_tasks (fun t ht hid => ⟨f t, ⟨List.mem_map_of_mem ht.mem, ?_, ?_⟩, hstays t ht hid⟩)
    rfl rfl rfl
  · exact (hcancelled t ht hid).trans ht.going
  · exact (hstays t ht hid).work ▸ ht.link

lemma alterTask {f : Task → Task} (hj : j ≠ i) (s : Schedule) :
    Apart i e { e.alterTask j f with schedule := s } := by
  refine map (fun t _ hid => ?_) (fun t _ hid => ?_) s
  · rw [if_neg (fun h => hj (h.symm.trans hid))]
    exact .refl t
  · rw [if_neg (fun h => hj (h.symm.trans hid))]

lemma await (hj : j ≠ i) (wait : Wait) : Apart i e (e.await j w wait) :=
  alterTask hj e.schedule

lemma awaitTime (hj : j ≠ i) (delay : Binary64) : Apart i e (e.awaitTime j w delay) := by
  rw [Engine.awaitTime]
  split_ifs
  · exact alterTask hj _
  · exact alterTask hj _

lemma enqueue (c : Call) : Apart i e (e.enqueue c) := same rfl rfl rfl rfl

lemma spawn (k : Nat) (w : Work) : Apart i e (e.spawn k w) :=
  of_tasks (fun t ht _ => ⟨t, ⟨List.mem_append_left _ ht.mem, ht.going, ht.link⟩, .refl t⟩) rfl rfl
    rfl

/-- Tasks join the queue, but none of the connection that waits for a timer. -/
lemma wake {p : Task → Bool}
    (hp : ∀ t, Linked t e → t.id = i → p t = true → t.wait.timer? = none) :
    Apart i e (e.wake p) := by
  refine map (fun t ht hid => ?_) (fun t _ _ => ?_) _
  · split_ifs with h
    · refine ⟨rfl, rfl, rfl, fun _ => rfl, fun n hn => ?_⟩
      have hnone := hp t ht hid h
      rw [hn] at hnone
      cases hnone
    · exact .refl t
  · split_ifs
    · rfl
    · rfl

lemma wakeWaiting {p : Task → Bool} (wait : Wait) (hwait : wait.timer? = none)
    (hp : ∀ t, p t = true → t.wait = wait) : Apart i e (e.wake p) :=
  wake fun t _ _ ht => by rw [hp t ht, hwait]

lemma finishTask (hj : j ≠ i) : Apart i e (e.finishTask j) := by
  have hleave : Apart i e { e with tasks := e.tasks.filter (·.id != j) } := by
    refine of_tasks (fun t ht hid => ⟨t, ⟨List.mem_filter.2 ⟨ht.mem, ?_⟩, ht.going, ht.link⟩,
      .refl t⟩) rfl rfl rfl
    exact bne_iff_ne.2 fun h => hj (h.symm.trans hid)
  exact hleave.trans (wakeWaiting (.completion j) rfl fun t ht => beq_iff_eq.1 ht)

lemma endCancelled (hj : t.id ≠ i) : Apart i e (e.endCancelled t) := by
  rw [Engine.endCancelled]
  cases t.timer with
  | none => exact finishTask hj
  | some n =>
    exact Apart.trans (m := { e with schedule := e.schedule.callOff n }) (same rfl rfl rfl rfl)
      (finishTask hj)

/-! ### Heartbeats -/

lemma sent (hj : j ≠ i) (socket : Nat) (failure : Option Failure) :
    Apart i e (e.sent j socket failure) := by
  rw [Engine.sent]
  split_ifs
  · exact finishTask hj
  · exact awaitTime hj _

lemma beat (hj : j ≠ i) (socket : Nat) : Apart i e (e.beat j socket) := by
  have hsend : Apart i e { e with feed := (e.feed.send socket heartbeat).1 } := by
    refine ⟨fun t ht _ => ⟨t, ⟨ht.mem, ht.going, ht.link⟩, .refl t⟩, rfl, ?_,
      read_send socket heartbeat e.feed, rfl⟩
    rw [Feed.send]
    split
    · rfl
    · rfl
  rw [Engine.beat]
  dsimp only
  split_ifs
  · exact hsend.trans (sent hj socket _)
  · exact hsend.trans (awaitTime hj _)

/-! ### Frames -/

lemma alterStation (k : Nat) (f : Station → Station)
    (hf : ∀ st, (f st).listener = st.listener) : Apart i e (e.alterStation k f) := by
  refine same rfl ?_ rfl rfl
  obtain h | ⟨st, hst, h⟩ := Quiet.listener_alterStation k f e
  · exact h
  · rw [h, hf, Engine.listener, hst]
    rfl

lemma alterListener (k : Nat) (f : Listener → Listener) (hf : ∀ l,
      { f l with events := [], framesReceived := 0 } = { l with events := [], framesReceived := 0 }) :
    Apart i e (e.alterListener k f) := by
  refine ⟨fun t ht _ => ⟨t, ⟨ht.mem, ht.going, ht.link⟩, .refl t⟩, ?_, rfl, rfl, rfl⟩
  obtain hl | hl := Quiet.listener_alterListener k f e
  · rw [hl]
  · rw [hl, hf]

lemma takeFrame (k : Nat) (p : Payload) : Apart i e (e.takeFrame k p) := by
  have hcount : Apart i e
      (e.alterListener k fun l => { l with framesReceived := l.framesReceived + 1 }) :=
    alterListener k _ fun _ => rfl
  rw [Engine.takeFrame]
  split_ifs
  · exact hcount
  · refine (hcount.trans (alterListener k _ fun _ => ?_)).trans (spawn k _)
    rfl

lemma settled (k : Nat) (j : TaskId) : Apart i e (e.settled k j) := alterListener k _ fun _ => rfl

lemma gathered (j : TaskId) : Apart i e (e.gathered j) := by
  have hwithout : Apart i e { e with
      tasks := e.tasks.map fun (t : Task) => { t with wait := t.wait.without j } } := by
    refine map (fun t _ _ => ?_) (fun _ _ _ => ?_) e.schedule
    · refine ⟨rfl, rfl, rfl, fun ht => ?_, fun n hn => ?_⟩
      · dsimp only
        rw [ht]
        rfl
      · dsimp only
        rw [hn]
        rfl
    · rfl
  exact hwithout.trans (wakeWaiting (.gathering []) rfl fun t ht => beq_iff_eq.1 ht)

lemma finishFrame (hj : j ≠ i) (k : Nat) : Apart i e (e.finishFrame k j) := by
  have hsettled : Apart i e ((e.finishTask j).enqueue (.settled k j)) :=
    (finishTask hj).trans (enqueue _)
  rw [Engine.finishFrame]
  split_ifs
  · exact hsettled.trans (enqueue _)
  · exact hsettled

lemma progress (hj : j ≠ i) (k : Nat)
    (handle : Registry → Int → Nat → Pipeline → Pipeline × Progress) :
    Apart i e (e.progress k j handle) := by
  rw [Engine.progress]
  split
  · exact finishTask hj
  · generalize handle _ _ _ _ = p
    obtain ⟨p, progress⟩ := p
    have hhandle : Apart i e
        (Engine.alterStation k (fun s => { s with pipeline := p }) { e with network := p.network }) :=
      Apart.trans (m := { e with network := p.network }) (same rfl rfl rfl rfl)
        (alterStation k _ fun _ => rfl)
    cases progress with
    | wait delay stage => exact hhandle.trans (awaitTime hj _)
    | done handled =>
      have hdone := hhandle.trans (finishFrame hj k)
      dsimp only
      split
      · exact hdone.trans (same rfl rfl rfl rfl)
      · exact hdone

/-! ### Settings -/

lemma keep (k : Nat) (session : Session) : Apart i e (e.keep k session) :=
  Apart.trans (m := { e with disk := session.disk, nextSerial := session.nextSerial })
    (same rfl rfl rfl rfl) (alterStation k _ fun _ => rfl)

lemma refresh : Apart i e e.refresh.1 := by
  rw [Engine.refresh]
  dsimp only
  split
  · split_ifs
    · exact .refl e
    · split
      · exact keep _ _
      · rename_i k st _ _ _ _ session _
        have hstamp : Apart i e { e.keep k session with stamp := e.store.stamp? e.disk } :=
          (keep k session).trans (same rfl rfl rfl rfl)
        refine hstamp.trans (alterStation k _ fun st => ?_)
        split
        · rfl
        · rfl
  · exact .refl e

/-- No frame has to do with the connection, so the alert texts that an operation sets do not
matter. -/
lemma operate {α : Type} (k : Nat) (st : Station) (f : Session → Session × α) :
    Apart i e (e.operate k st f).1 := by
  have hlinked : ∀ t, Linked t (e.keep k (f (e.session st)).1) → ∀ s, t.work ≠ .resume s := by
    rintro t ⟨-, -, l, hl⟩ s hwork
    rw [hwork] at hl
    cases hl
  rw [Engine.operate]
  refine (keep k _).trans (map (s := e.schedule) (fun t ht _ => ?_) fun t ht _ => ?_)
  · split
    · exact absurd ‹_› (hlinked t ht _)
    · exact .refl t
  · split
    · rfl
    · rfl

/-! ### The party outside -/

/-- Where the listener is not being stopped, the party outside only wakes up. -/
lemma wakeOutside (hstopping : e.stopping = none) : Apart i e e.wakeOutside := by
  rw [Engine.wakeOutside.eq_def]
  simp only [hstopping]
  exact same rfl rfl rfl rfl

lemma sleep (hi : i ≠ outside) (delay : Binary64) :
    Apart i e { e.awaitTime outside .outside delay with isAwake := false } :=
  (awaitTime hi.symm delay).trans (same rfl rfl rfl rfl)

lemma startRefresher (k : Nat) : Apart i e (e.startRefresher k) :=
  Apart.trans (m := { e with refresher := some e.nextTask }) (same rfl rfl rfl rfl) (spawn k _)

lemma arrive (a : Arrival) : Apart i e (e.arrive a) := by
  have hfeed : Apart i e { e with feed := e.feed.arrive a } :=
    ⟨fun t ht _ => ⟨t, ⟨ht.mem, ht.going, ht.link⟩, .refl t⟩, rfl, rfl, rfl, rfl⟩
  exact hfeed.trans (wakeWaiting (.arrival _) rfl fun t ht => beq_iff_eq.1 ht)

lemma watch (hj : j ≠ i) : Apart i e (e.watch j) := by
  rw [Engine.watch]
  split_ifs
  · exact (finishTask hj).trans (enqueue _)
  · exact await hj _

lemma goOff (a : Alarm) (ha : ∀ n, a = .ring i n → ∀ t, Linked t e → t.id = i →
    t.wait ≠ .timer n) : Apart i e (e.goOff a) := by
  cases a with
  | ring j n =>
    refine wake fun t ht hid hp => ?_
    obtain ⟨hj, hn⟩ := Bool.and_eq_true_iff.1 hp
    obtain rfl : i = j := hid.symm.trans (beq_iff_eq.1 hj)
    exact absurd (beq_iff_eq.1 hn) (ha n rfl t ht hid)
  | release => exact wakeWaiting .release rfl fun t ht => beq_iff_eq.1 ht
  | request =>
    exact Apart.trans (m := { e with isRequested := true }) (same rfl rfl rfl rfl)
      (wakeWaiting .request rfl fun t ht => beq_iff_eq.1 ht)

end Apart

/-! ## Calls -/

/-- Of the tasks that have to do with the connection, there is but one. -/
lemma Linked.eq_of_link (h : Rest fifo e) (ht : Linked t e) {t' : Task} (ht' : t' ∈ e.tasks)
    {l : Link} (hl : t'.work.duty = .link l) : t' = t := by
  obtain ⟨l', hl'⟩ := ht.link
  have hid := h.sound.slots.single t'.id t.id l l' (hl ▸ h.orderly.duty_of_mem ht')
    (hl' ▸ h.orderly.duty_of_mem ht.mem)
  exact List.inj_on_of_nodup_map h.orderly.unique ht' ht.mem hid

/-- While the listener runs, the turn of another task is apart from the connection. -/
lemma Apart.runTask (h : Rest fifo e) (hrunning : (e.listener 0).running = true)
    (hlinked : Linked t e) {t' : Task} (ht' : t' ∈ e.tasks) (hne : t'.id ≠ t.id) :
    Apart t.id e (e.runTask t') := by
  have hother : ∀ l, t'.work.duty ≠ .link l := by
    intro l hl
    exact hne (congrArg Task.id (hlinked.eq_of_link h ht' hl))
  have hstopping : e.stopping = none := by
    refine Option.eq_none_iff_forall_ne_some.2 fun st hst => ?_
    have hstopped := (h.stops hst).1
    rw [hrunning] at hstopped
    cases hstopped
  rw [Engine.runTask]
  split_ifs
  · have hend : Apart t.id e (e.endCancelled t') := endCancelled hne
    dsimp only
    split
    · exact hend.trans (enqueue _)
    · exact hend
  · cases hwork : t'.work with
    | outside => exact wakeOutside hstopping
    | rest socket => exact awaitTime hne _
    | beat socket => exact beat hne socket
    | sent socket failure => exact sent hne socket failure
    | receive p => exact progress hne _ _
    | resume s => exact progress hne _ _
    | idle => exact awaitTime hne _
    | refresh => exact refresh.trans (awaitTime hne _)
    | vigil => exact watch hne
    | _ => exact absurd (congrArg Work.duty hwork) (hother _)

/-- While the listener runs, a call is apart from the task of the connection, or it is the task's
own turn, or the timer goes off that the task waits for. -/
lemma apart_make (h : Rest fifo e) (hrunning : (e.listener 0).running = true)
    (hlinked : Linked t e) (c : Call) :
    (c = .turn t.id ∧ e.make c = e.runTask t) ∨
      (∃ n, c = .alarm (.ring t.id n) ∧ t.wait = .timer n) ∨ Apart t.id e (e.make c) := by
  cases c with
  | turn j =>
    by_cases hj : j = t.id
    · refine .inl ⟨by rw [hj], ?_⟩
      rw [make, hj]
      simp only [h.orderly.task?_of_mem hlinked.mem]
    · refine .inr (.inr ?_)
      rw [make]
      cases ht' : e.task? j with
      | none => exact .refl e
      | some t' =>
        exact .runTask h hrunning hlinked (mem_of_task? ht') (id_of_task? ht' ▸ hj)
  | alarm a =>
    by_cases hring : ∃ n, a = .ring t.id n ∧ t.wait = .timer n
    · obtain ⟨n, rfl, hn⟩ := hring
      exact .inr (.inl ⟨n, rfl, hn⟩)
    · refine .inr (.inr (Apart.goOff a fun n ha t' ht' hid hn => hring ⟨n, ha, ?_⟩))
      obtain ⟨l, hl⟩ := ht'.link
      exact hlinked.eq_of_link h ht'.mem hl ▸ hn
  | settled k j => exact .inr (.inr (.settled k j))
  | gathered j => exact .inr (.inr (.gathered j))

end Engine

end FeedWatch
