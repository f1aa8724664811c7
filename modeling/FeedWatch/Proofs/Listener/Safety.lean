import FeedWatch.Proofs.Engine.Runs
import FeedWatch.Proofs.Listener.Turns

/-!
# A listener has one connection

Every state that a run of a listener comes to is sound, whatever the order of the calls
(`Reachable.rest`).  Main statement: the listener never has both a connection and a pause before a
reconnect, it sends heartbeats only while it is connected and pauses only while it is disconnected,
and of all its sockets at most one was not closed yet (`Reachable.single_connection`).
-/

namespace FeedWatch

namespace Engine

open Relation

variable {next : Engine → Engine → Prop} {e e' : Engine} {fifo : Prop}

/-! ## Before the first start -/

/-- The party outside, which is awake, is the only task at a station without a past. -/
structure Alone (p : Task) (e : Engine) : Prop where
  tasks : e.tasks = [p]
  id : p.id = outside
  home : p.station = 0
  work : p.work = .outside
  going : p.cancelled = false
  awake : e.isAwake = true
  lined : Lined none true [p] e.schedule.queue
  next : outside < e.nextTask
  station : ∃ st, e.stations = [st] ∧ st.listener = .initial ∧ st.pipeline.received = []
  closed : ∀ s ∈ e.feed.sockets, s.closings ≠ 0
  read : e.feed.read = []
  stopping : e.stopping = none

lemma Alone.task?_eq {p : Task} (h : Alone p e) (i : TaskId) :
    e.task? i = if i = outside then some p else none := by
  have hfind : (outside == i) = decide (i = outside) := by
    rw [Bool.eq_iff_iff, beq_iff_eq, decide_eq_true_eq, eq_comm]
  rw [task?, h.tasks, List.find?_cons, h.id]
  simp only [hfind, List.find?_nil]
  split_ifs with hi
  · simp [hi]
  · simp [hi]

lemma Alone.outline_eq {p : Task} (h : Alone p e) :
    e.outline = .initial e.nextTask (e.feed.sockets.map Socket.closings) := by
  obtain ⟨st, hst, hlistener, hreceived⟩ := h.station
  have hwait : p.wait = .turn := by
    obtain ⟨p', hp', -, hturn⟩ := h.lined.ready outside List.mem_cons_self
    rw [← List.mem_singleton.1 hp']
    exact hturn
  ext1
  case listener =>
    show e.listener 0 = .initial
    rw [listener, hst]
    exact hlistener
  case duty =>
    funext i
    rw [outline_duty, h.task?_eq]
    change _ = if i = outside then some Duty.party else none
    split_ifs
    · rw [Option.map_some, h.work]
      rfl
    · rfl
  case cancelled =>
    funext i
    rw [outline_cancelled, h.task?_eq]
    split_ifs
    · exact h.going
    · rfl
  case pending =>
    show pendingOf e.tasks = []
    rw [h.tasks, pendingOf, List.filterMap_cons_none (by rw [Task.pending?, h.work]; rfl)]
    rfl
  case next => rfl
  case closings => rfl
  case read => exact h.read
  case received =>
    show e.received = []
    rw [received, hst]
    exact hreceived
  case stopping => exact h.stopping
  case awaited =>
    rw [outline_awaited, h.task?_eq, if_pos rfl, Option.bind_some, hwait]
    rfl
  case isAwake => exact h.awake

lemma Alone.rest {p : Task} (h : Alone p e) : Rest fifo e := by
  obtain ⟨st, hst, -, -⟩ := h.station
  refine ⟨⟨⟨st, hst⟩, fun t ht => ?_, ?_, fun t ht => ?_, h.next, by rintro i ⟨⟩, fun _ => ?_⟩, ?_⟩
  · rw [h.tasks] at ht
    rw [List.mem_singleton.1 ht]
    exact h.home
  · rw [h.tasks]
    exact List.nodup_singleton _
  · rw [h.tasks] at ht
    rw [List.mem_singleton.1 ht, h.id]
    exact h.next
  · rw [h.awake, h.tasks]
    exact h.lined
  · rw [h.outline_eq]
    refine Outline.sound_initial h.next fun s hs => ?_
    rw [List.getElem?_map] at hs
    obtain ⟨so, hso, hzero⟩ := Option.map_eq_some_iff.1 hs
    exact h.closed so (List.mem_of_getElem? hso) hzero

lemma IsFresh.alone (h : IsFresh e) : ∃ p, Alone p e := by
  obtain ⟨timing, epoch, store, disk, network, script, session, pipeline, hreceived⟩ := h
  exact ⟨⟨outside, 0, .outside, .turn, none, false⟩, rfl, rfl, rfl, rfl, rfl, rfl, .start,
    Nat.zero_lt_one, ⟨_, rfl, rfl, hreceived⟩, by rintro s ⟨⟩, rfl, rfl⟩

lemma IsFresh.rest (h : IsFresh e) : Rest fifo e := by
  obtain ⟨p, hp⟩ := h.alone
  exact hp.rest

/-! ## Calls -/

/-- A task that does not wait for anything is ready, if calls are made in any order. -/
lemma Rest.ready {t : Task} (h : Rest False e) (ht : t ∈ e.tasks) (hwait : t.wait = .turn) :
    Ready False t e := by
  refine ⟨{ h.orderly with live := ?_, lined := by nofun }, h.sound, h.orderly.task?_of_mem ht,
    hwait, by nofun⟩
  rintro i hi
  cases hi
  exact isLive_of_mem ht

/-- Any ready task may take its turn. -/
lemma Rest.inAnyOrder (h : Rest False e) (hcall : InAnyOrder e e') : Rest False e' := by
  cases hcall with
  | plan s =>
    -- a queue that is not in order says nothing, so any other queue will do
    exact ⟨{ h.orderly with lined := by nofun }, h.sound⟩
  | call c hturn =>
    cases c with
    | turn i =>
      obtain ⟨t, ht, hwait⟩ := hturn i rfl
      exact id_of_task? ht ▸ (h.ready (mem_of_task? ht) hwait).make
    | alarm a => exact h.goOff a
    | settled k i => exact h.settled k i
    | gathered i => exact h.gathered i

/-- The head of the queue is a task that is ready, if it is a task. -/
lemma Rest.head {c : Call} {queue : List Call} {i : TaskId} (h : Rest True e)
    (hqueue : e.schedule.queue = c :: queue) (hc : c = .turn i) :
    ∃ t ∈ e.tasks, t.id = i ∧ t.wait = .turn := by
  have hlined := h.orderly.lined trivial
  rw [hqueue, hc] at hlined
  exact hlined.ready i (List.mem_append_right _ (List.mem_append_right _ List.mem_cons_self))

/-- The task whose turn comes first is ready once it is taken off the queue. -/
lemma Rest.readyFirst {t : Task} {s : Schedule} (h : Rest True e)
    (hqueue : e.schedule.queue = .turn t.id :: s.queue) (ht : t ∈ e.tasks) (hwait : t.wait = .turn) :
    Ready True t { e with schedule := s } := by
  have hlined := h.orderly.lined trivial
  rw [hqueue] at hlined
  refine ⟨{ h.orderly with live := ?_, lined := fun _ => hlined.take }, h.sound,
    h.orderly.task?_of_mem ht, hwait, fun _ before p after hp => hlined.first hp⟩
  rintro i hi
  cases hi
  exact isLive_of_mem ht

/-- When calls are made in order, the task at the head of the queue is ready. -/
lemma Rest.inOrder (h : Rest True e) (hcall : InOrder e e') : Rest True e' := by
  cases hcall with
  | due alarms s hqueue =>
    -- alarms join the queue, and the turns in it stay what they are
    refine ⟨h.orderly.same h.orderly.station rfl rfl ?_ rfl, h.sound⟩
    rw [hqueue, turnsOf_append, turnsOf_alarms, List.append_nil]
  | call c s hqueue =>
    have hrest : c.turn? = none → Rest True { e with schedule := s } := by
      intro hc
      refine ⟨h.orderly.same h.orderly.station rfl rfl ?_ rfl, h.sound⟩
      rw [hqueue, turnsOf, turnsOf, List.filterMap_cons_none hc]
    cases c with
    | turn i =>
      obtain ⟨t, ht, rfl, hwait⟩ := h.head hqueue rfl
      exact (h.readyFirst hqueue ht hwait).make
    | alarm a => exact (hrest rfl).goOff a
    | settled k i => exact (hrest rfl).settled k i
    | gathered i => exact (hrest rfl).gathered i

/-! ## Runs -/

lemma Rest.step (h : Rest fifo e) (hnext : ∀ e e', Rest fifo e → next e e' → Rest fifo e')
    (hstep : Step next e e') : Rest fifo e' := by
  cases hstep with
  | call hcall => exact hnext e e' h hcall
  | start _ hawake => exact h.startListener hawake
  | stop _ hawake =>
    have hfailure : Rest fifo { e with failure := none } :=
      ⟨h.orderly.same h.orderly.station rfl rfl rfl rfl, h.sound⟩
    exact hfailure.stopListening hawake
  | sleep _ hawake delay => exact h.sleep hawake delay
  | refresher => exact h.startRefresher
  | arrive _ a => exact h.arrive a
  | operate _ s f => exact h.operate s f
  | world _ feed network disk hclosings hread =>
    refine ⟨h.orderly.same h.orderly.station rfl rfl rfl rfl, ?_⟩
    exact outline_feed (e := e) hclosings hread ▸ h.sound

lemma Reachable.rest_of (h : Reachable next e)
    (hnext : ∀ e e', Rest fifo e → next e e' → Rest fifo e') : Rest fifo e := by
  obtain ⟨e₀, hfresh, hsteps⟩ := h
  -- over the steps of the run, each of which leaves the engine at rest
  induction hsteps with
  | refl => exact hfresh.rest
  | tail _ hstep ih => exact ih.step hnext hstep

/-- Every state of a run is sound. -/
theorem Reachable.rest (h : Reachable InAnyOrder e) : Rest False e :=
  h.rest_of fun _ _ h hcall => h.inAnyOrder hcall

/-- Every state of a run in order is sound, and its queue is in order. -/
theorem Reachable.rest_inOrder (h : Reachable InOrder e) : Rest True e :=
  h.rest_of fun _ _ h hcall => h.inOrder hcall

/-- A run in order is a run. -/
lemma Reachable.inAnyOrder (h : Reachable InOrder e) : Reachable InAnyOrder e := by
  refine h.mono fun e e' hinOrder hreach hcall => ?_
  cases hcall with
  | call c s hqueue =>
    -- taking the call off the queue and making it are two steps; its task is ready by `head`
    refine (hreach.step (.call (.plan s))).step (.call (.call c fun i hi => ?_))
    obtain ⟨t, ht, rfl, hwait⟩ := hinOrder.rest_inOrder.head hqueue hi
    exact ⟨t, hinOrder.rest_inOrder.orderly.task?_of_mem ht, hwait⟩
  | due alarms s hqueue => exact hreach.step (.call (.plan s))

/-! ## One connection -/

/-- Zeros that are at one place only are at most one. -/
lemma count_zero_le_one {ns : List Nat}
    (h : ∀ i j : Nat, ns[i]? = some 0 → ns[j]? = some 0 → i = j) : ns.count 0 ≤ 1 := by
  induction ns with
  | nil => exact Nat.zero_le 1
  | cons n ns ih =>
    by_cases hn : n = 0
    · have hrest : ns.count 0 = 0 := by
        refine List.count_eq_zero.2 fun hmem => ?_
        obtain ⟨i, hi⟩ := List.mem_iff_getElem?.1 hmem
        exact absurd (h 0 (i + 1) (by rw [hn]; rfl) hi) (by nofun)
      have hone : (n :: ns).count 0 = 1 := by rw [hn, List.count_cons_self, hrest]
      exact Nat.le_of_eq hone
    · rw [List.count_cons_of_ne hn]
      exact ih fun i j hi hj => Nat.succ.inj (h (i + 1) (j + 1) hi hj)

/-- Whatever happens and in whichever order: the connection and the pause before a reconnect are
never both there, heartbeats are sent only while connected, a reconnect is pending only while
disconnected, and at most one socket was not closed yet. -/
theorem Reachable.single_connection (h : Reachable InAnyOrder e) :
    ¬ (e.isHeldLive (e.listener 0).connection = true ∧
        e.isHeldLive (e.listener 0).reconnect = true) ∧
      (e.isHeldLive (e.listener 0).heartbeat = true → (e.listener 0).phase = .connected) ∧
      (e.isHeldLive (e.listener 0).reconnect = true → (e.listener 0).phase = .disconnected) ∧
      e.feed.sockets.countP (fun s => s.closings == 0) ≤ 1 := by
  obtain ⟨hslots, hphases, -, hsockets, -, -⟩ := h.rest.sound
  have hpause : ∀ j d, (e.listener 0).reconnect = some j → e.outline.duty j = some d →
      e.outline.duty j = some (.link .pausing) := by
    intro j d hj hd
    rw [hd, hslots.pauses j d hj hd]
  refine ⟨?_, fun hbeat => ?_, fun hreconnect => ?_, ?_⟩
  · rintro ⟨hconnection, hreconnect⟩
    obtain ⟨i, d, hi, hd⟩ := exists_of_isHeldLive hconnection
    obtain ⟨j, d', hj, hd'⟩ := exists_of_isHeldLive hreconnect
    obtain ⟨l, rfl, hl⟩ := hslots.links i d hi hd
    have hpausing := hpause j d' hj hd'
    -- both tasks are links, and there is but one, which the connection's slot says is no pause
    have hij : i = j := hslots.single i j l .pausing hd hpausing
    rw [hij, hpausing] at hd
    exact hl (Duty.link.inj (Option.some.inj hd)).symm
  · obtain ⟨i, d, hi, hd⟩ := exists_of_isHeldLive hbeat
    exact hphases.beating i d hi hd
  · obtain ⟨j, d, hj, hd⟩ := exists_of_isHeldLive hreconnect
    exact (hphases.pausing j (hpause j d hj hd)).1
  · -- a socket that was not closed is the one that the listener holds
    have hcount :
        e.feed.sockets.countP (fun s => s.closings == 0) = e.outline.closings.count 0 := by
      rw [List.count, outline, List.countP_map]
      rfl
    rw [hcount]
    refine count_zero_le_one fun i j hi hj => ?_
    exact Option.some.inj ((hsockets.held i hi).symm.trans (hsockets.held j hj))

/-- A listener that was started and has connected. -/
theorem Reachable.single_connection_started : ∃ e, Reachable InAnyOrder e ∧
    e.isHeldLive (e.listener 0).connection = true ∧
    e.isHeldLive (e.listener 0).reconnect = false ∧
    e.isHeldLive (e.listener 0).heartbeat = true ∧ (e.listener 0).phase = .connected ∧
    e.feed.sockets.countP (fun s => s.closings == 0) = 1 := by
  have hfresh : Reachable InAnyOrder ((start .standard 0 ⟨["settings"], ""⟩ .empty ⟨[], [], 0⟩
      (.ofScript [])).addStation ⟨⟨["settings"], ""⟩, .empty, .empty, ⟨⟨true, [], "", none⟩, []⟩, 0⟩
      (.start .standard .none (.scripted []) ⟨[], [], 0⟩)) :=
    ⟨_, .intro _ _ _ _ _ _ _ _ rfl, .refl⟩
  have hreach := (hfresh.step (.start _ rfl)).step (.call (.call (.turn 1) fun i hi => by
    cases hi
    exact ⟨_, rfl, rfl⟩))
  have hsingle := Reachable.single_connection hreach
  refine ⟨_, hreach, rfl, ?_, rfl, hsingle.2.1 rfl, ?_⟩
  · exact Bool.eq_false_iff.2 fun hreconnect => hsingle.1 ⟨rfl, hreconnect⟩
  · exact Nat.le_antisymm hsingle.2.2.2 (Nat.le_refl 1)

end Engine

end FeedWatch
