import FeedWatch.Proofs.Watcher.Clients

/-!
# Between two watches

Before its first start and after a stop nobody is there but the party outside (`Engine.Idle`).  Main
statements: whatever happens then, nobody connects, sends or posts (`Idle.happen`), and the watch
begins when the watcher is started (`Idle.watching`).
-/

namespace FeedWatch

/-- The look at the settings file takes nobody's place. -/
lemma Work.Fits.beside {w : Work} {events : List TaskId} {i : TaskId} {ρ : Option TaskId}
    (h : w.Fits none events i) (hne : ρ ≠ some i) : w.Fits ρ events i := by
  cases w with
  | receive _ => exact ⟨h.1, hne⟩
  | resume _ => exact ⟨h.1, hne⟩
  | connected _ => exact ⟨h.1, hne⟩
  | closed _ => exact ⟨h.1, hne⟩
  | idle => exact nomatch h
  | refresh => exact nomatch h
  | vigil => exact h.elim
  | _ => exact hne

/-- A call tells of the same end in focus. -/
lemma Call.told?_inFocus (c : Call) (n : Nat) : (c.inFocus n).told? = c.told? := by
  cases c with
  | _ => rfl

/-- Whether the listener of a station runs, and the state of its connection. -/
def Station.stance (s : Station) : Bool × Phase := (s.listener.running, s.listener.phase)

namespace Engine

variable {n m : Nat} {e e' e'' : Engine} {p t : Task} {ρ : Option TaskId} {c : Call}
variable {schedule : Schedule} {i : TaskId}

/-! ## A watch begins -/

/-- Where nobody is but the party outside, a listener is tended. -/
lemma Alone.tended (h : Alone p e) (hmild : e.feed.ClosesMildly) (hfailure : e.failure = none)
    (htold : ∀ c ∈ e.schedule.queue, ∀ i, c.told? = some i → i ≠ outside ∧ i < e.nextTask) :
    Tended none e := by
  have hparty : ∀ t ∈ e.tasks, t = p := fun t ht => List.mem_singleton.1 (h.tasks ▸ ht)
  have hlistener : e.listener 0 = .initial := by
    obtain ⟨st, hst, hl, -⟩ := h.station
    rw [listener, hst]
    exact hl
  have hsocket : ∀ t ∈ e.tasks, t.work.socket? = none ∧ t.work.dials = false := by
    intro t ht
    rw [hparty t ht, h.work]
    exact ⟨rfl, rfl⟩
  refine ⟨h.rest, ⟨⟨fun t ht s hs => ?_, fun t ht t' ht' _ _ _ => ?_⟩, fun t ht s _ hs => ?_,
    fun _ t ht _ => hsocket t ht⟩, ⟨hmild, fun t ht => ?_, fun _ _ _ => trivial, fun r hr => ?_,
      fun i hi => ?_, fun c hc i hi => ?_⟩, ⟨fun hrunning => ?_, fun _ t ht hcancelled => ?_⟩,
    ⟨fun _ t ht hframe => ?_, fun f hf => ?_, fun _ _ => ?_, hfailure⟩, fun _ => rfl⟩
  · rw [(hsocket t ht).1] at hs
    cases hs
  · rw [hparty t ht, hparty t' ht']
  · rw [(hsocket t ht).1] at hs
    cases hs
  · rw [hparty t ht, h.work]
    rintro ⟨⟩
  · cases hr
  · rw [hlistener] at hi
    cases hi
  · obtain ⟨hne, hlt⟩ := htold c hc i hi
    refine ⟨fun t ht hid => hne ?_, hlt⟩
    rw [← hid, hparty t ht, h.id]
  · rw [hlistener] at hrunning
    cases hrunning
  · rw [hparty t ht, h.going] at hcancelled
    cases hcancelled
  · rw [hparty t ht, h.work] at hframe
    cases hframe
  · rw [h.stopping] at hf
    cases hf
  · rw [hlistener]
    rfl

/-- A listener that is not running is started. -/
lemma Tended.startListener (h : Tended none e) (hawake : e.isAwake = true)
    (hgoing : ∀ t ∈ e.tasks, t.cancelled = false) (hstopped : (e.listener 0).running = false)
    (hstopping : e.stopping = none) :
    Tended none (e.startListener 0) ∧ ((e.startListener 0).listener 0).running = true := by
  have hstation := h.rest.orderly.station
  have hlistener := listener_of_station hstation fun l =>
    { l with running := true, connection := some e.nextTask }
  have hstart : e.startListener 0 = (e.alterListener 0 fun l =>
      { l with running := true, connection := some e.nextTask }).spawn 0 .connect :=
    if_neg (Bool.eq_false_iff.1 hstopped)
  have hrunning : ((e.startListener 0).listener 0).running = true := by
    rw [hstart]
    exact congrArg Listener.running hlistener
  have htasks : ∀ t ∈ (e.startListener 0).tasks, t.cancelled = false := by
    intro t ht
    rw [hstart] at ht
    obtain ht | ht := List.mem_append.1 ht
    · exact hgoing t ht
    · rw [List.mem_singleton.1 ht]
  have hcrew : Crew none (fun _ => True) (e.startListener 0) := by
    rw [hstart]
    refine (h.crew.alterListener 0 fun _ => ?_).spawn (w := .connect) nofun 0
    rfl
  have hhelm : (e.startListener 0).stopping = none ∧ (e.startListener 0).failure = none := by
    rw [hstart]
    exact ⟨hstopping, h.winding.failure⟩
  refine ⟨⟨h.rest.startListener hawake, h.pulse.startListener hstation, hcrew,
    ⟨fun _ t ht hcancelled => ?_, fun hfalse => ?_⟩, .of_running hrunning hhelm.1 hhelm.2,
    fun _ => rfl⟩, hrunning⟩
  · rw [htasks t ht] at hcancelled
    cases hcancelled
  · rw [hrunning] at hfalse
    cases hfalse

/-- The look at the settings file begins beside a listener that runs. -/
lemma Tended.startRefresher (h : Tended none e) (hrunning : (e.listener 0).running = true) :
    Tended (some e.nextTask) (e.spawn 0 .idle) := by
  have hold : ∀ t ∈ (e.spawn 0 .idle).tasks,
      t ∈ e.tasks ∨ t = ⟨e.nextTask, 0, .idle, .turn, none, false⟩ := by
    intro t ht
    exact (List.mem_append.1 ht).imp_right List.mem_singleton.1
  have hcrew : Crew (some e.nextTask) (fun _ => True) (e.spawn 0 .idle) := by
    refine ⟨h.crew.mild, fun t ht => ?_, fun _ _ _ => trivial, fun r hr => ?_, fun i hi => ?_,
      fun c hc i hi => ?_⟩
    · obtain ht | rfl := hold t ht
      · have hne : some e.nextTask ≠ some t.id :=
          fun hid => absurd (Option.some.inj hid).symm
            (Nat.ne_of_lt (h.rest.orderly.below t ht))
        exact (h.crew.fits t ht).beside hne
      · exact rfl
    · rw [← Option.some.inj hr]
      exact Nat.lt_succ_self _
    · exact Nat.lt_succ_of_lt (h.crew.listed i hi)
    · obtain hc | hc := List.mem_append.1 hc
      · obtain ⟨hdone, hlt⟩ := h.crew.told c hc i hi
        refine ⟨fun t ht => ?_, Nat.lt_succ_of_lt hlt⟩
        obtain ht | rfl := hold t ht
        · exact hdone t ht
        · exact Nat.ne_of_gt hlt
      · rw [List.mem_singleton.1 hc] at hi
        cases hi
  refine ⟨⟨h.rest.orderly.spawn .idle, ?_⟩, h.pulse.quiet (.spawn 0 rfl nofun), hcrew,
    ⟨fun _ t ht hcancelled hbusy => ?_, fun hstopped => ?_⟩,
    .of_running hrunning (h.stopping hrunning) h.winding.failure, fun hstopped => ?_⟩
  · rw [outline_spawn_of h.rest.orderly 0 rfl]
    exact h.rest.sound.spawnAside
  · obtain ht | rfl := hold t ht
    · obtain ⟨q, hq, hgoing, hpause, hprecedes⟩ := h.trail.running hrunning t ht hcancelled hbusy
      refine ⟨q, List.mem_append_left _ hq, hgoing, hpause, hprecedes.mono ?_⟩
      rw [Engine.spawn, Schedule.enqueue, turnsOf_append]
      exact List.prefix_append _ _
    · cases hcancelled
  · exact absurd hrunning (Bool.eq_false_iff.1 hstopped)
  · exact absurd hrunning (Bool.eq_false_iff.1 hstopped)

/-! ## Idle watchers -/

/-- Nobody is there but the party outside: every socket was closed, and the queue tells of nobody's
end but of those who are no more. -/
structure Idle (e : Engine) : Prop where
  party : ∃ p, e.tasks = [p] ∧ p.id = outside ∧ p.work = .outside ∧ p.cancelled = false ∧
    Lined none e.isAwake [p] e.schedule.queue
  told : ∀ c ∈ e.schedule.queue, ∀ i, c.told? = some i → i ≠ outside ∧ i < e.nextTask
  next : outside < e.nextTask
  closed : ∀ s ∈ e.feed.sockets, s.closings ≠ 0
  mild : e.feed.ClosesMildly
  refresher : e.refresher = none
  stopping : e.stopping = none
  failure : e.failure = none
  rests : ∀ s, e.stations.getLast? = some s →
    s.listener.running = false ∧ s.listener.phase = .disconnected

/-- Nobody has connected, sent, read or closed anything, nor made a request, and the stations have
done nothing. -/
structure Unmoved (e e' : Engine) : Prop where
  accounts : e'.accounts = e.accounts
  stances : e'.stations.map Station.stance = e.stations.map Station.stance
  urls : e'.feed.urls = e.feed.urls
  sent : e'.feed.sockets.map Socket.sent = e.feed.sockets.map Socket.sent
  closings : e'.feed.sockets.map Socket.closings = e.feed.sockets.map Socket.closings
  read : e'.feed.read = e.feed.read
  log : e'.network.log = e.network.log
  closed : e'.network.closed = e.network.closed

namespace Unmoved

lemma same (haccounts : e'.accounts = e.accounts)
    (hstances : e'.stations.map Station.stance = e.stations.map Station.stance)
    (hfeed : e'.feed = e.feed) (hnetwork : e'.network = e.network) : Unmoved e e' := by
  refine ⟨haccounts, hstances, ?_, ?_, ?_, ?_, ?_, ?_⟩
  all_goals first | rw [hfeed] | rw [hnetwork]

lemma refl (e : Engine) : Unmoved e e := .same rfl rfl rfl rfl

lemma trans (h : Unmoved e e') (h' : Unmoved e' e'') : Unmoved e e'' :=
  ⟨h'.accounts.trans h.accounts, h'.stances.trans h.stances, h'.urls.trans h.urls,
    h'.sent.trans h.sent, h'.closings.trans h.closings, h'.read.trans h.read, h'.log.trans h.log,
    h'.closed.trans h.closed⟩

end Unmoved

lemma stances_keep (k : Nat) (s : Session) (e : Engine) :
    (e.keep k s).stations.map Station.stance = e.stations.map Station.stance := by
  refine map_keep (fun _ _ => ?_) k s e
  rfl

lemma stances_refresh (e : Engine) :
    e.refresh.1.stations.map Station.stance = e.stations.map Station.stance := by
  refine map_refresh (fun _ _ => ?_) (fun _ _ _ _ => ?_) e
  · rfl
  · rfl

/-! ### What happens meanwhile -/

namespace Idle

/-- The party outside waits for something else, or for nothing, and the queue fits it. -/
lemma change (h : Idle e) {p : Task} (htasks : e'.tasks = [p]) (hid : p.id = outside)
    (hwork : p.work = .outside) (hgoing : p.cancelled = false)
    (hlined : Lined none e'.isAwake [p] e'.schedule.queue)
    (hqueue : ∀ c ∈ e'.schedule.queue, c.told? ≠ none → c ∈ e.schedule.queue)
    (hhelm : { e'.helm with isAwake := true } = { e.helm with isAwake := true })
    (hnext : e'.nextTask = e.nextTask) (hmild : e'.feed.ClosesMildly)
    (hclosings : e'.feed.sockets.map Socket.closings = e.feed.sockets.map Socket.closings)
    (hstances : e'.stations.map Station.stance = e.stations.map Station.stance) :
    Idle e' := by
  refine ⟨⟨p, htasks, hid, hwork, hgoing, hlined⟩, fun c hc i hi => ?_, hnext ▸ h.next,
    fun s hs hzero => ?_, hmild, (congrArg Helm.refresher hhelm).trans h.refresher,
    (congrArg Helm.stopping hhelm).trans h.stopping, (congrArg Helm.failure hhelm).trans h.failure,
    fun s hs => ?_⟩
  · rw [hnext]
    exact h.told c (hqueue c hc (by rw [hi]; nofun)) i hi
  · have hmem : s.closings ∈ e.feed.sockets.map Socket.closings :=
      hclosings ▸ List.mem_map_of_mem hs
    obtain ⟨s', hs', heq⟩ := List.mem_map.1 hmem
    exact h.closed s' hs' (heq.trans hzero)
  · have hlast : (e.stations.map Station.stance).getLast? = some s.stance := by
      rw [← hstances, List.getLast?_map, hs]
      rfl
    rw [List.getLast?_map] at hlast
    obtain ⟨s', hs', heq⟩ := Option.map_eq_some_iff.1 hlast
    obtain ⟨hrunning, hphase⟩ := h.rests s' hs'
    exact ⟨(congrArg Prod.fst heq).symm.trans hrunning, (congrArg Prod.snd heq).symm.trans hphase⟩

lemma ne_turn_of_beq {w w' : Wait} (hw : w' ≠ .turn) (h : (w == w') = true) : w ≠ .turn :=
  beq_iff_eq.1 h ▸ hw

/-- Whoever waits for something else than its turn may wake. -/
lemma wake (h : Idle e) {q : Task → Bool} (hq : ∀ t, q t = true → t.wait ≠ .turn) :
    Idle (e.wake q) := by
  obtain ⟨p, htasks, hid, hwork, hgoing, hlined⟩ := h.party
  have hwoken := hlined.wake (List.nodup_singleton _) q hq
  refine h.change (p := if q p then { p with wait := .turn } else p) ?_ ?_ ?_ ?_ ?_ ?_ rfl rfl
    h.mild rfl rfl
  · rw [Engine.wake, htasks]
    rfl
  · split_ifs
    · exact hid
    · exact hid
  · split_ifs
    · exact hwork
    · exact hwork
  · split_ifs
    · exact hgoing
    · exact hgoing
  · rw [Engine.wake, htasks]
    exact hwoken
  · intro c hc htold
    refine (List.mem_append.1 hc).resolve_right fun hc => htold ?_
    obtain ⟨t, -, rfl⟩ := List.mem_map.1 hc
    rfl

/-- A call that is no task's turn is taken from the queue. -/
lemma pop (h : Idle e) (hqueue : e.schedule.queue = c :: schedule.queue) (hc : c.turn? = none) :
    Idle { e with schedule } := by
  obtain ⟨p, htasks, hid, hwork, hgoing, hlined⟩ := h.party
  refine h.change htasks hid hwork hgoing (hlined.congr ?_) (fun c' hc' _ => ?_) rfl rfl h.mild
    rfl rfl
  · rw [hqueue, turnsOf, turnsOf, List.filterMap_cons_none hc]
  · rw [hqueue]
    exact List.mem_cons_of_mem _ hc'

/-- A turn is that of the party outside, which wakes up. -/
lemma turn (h : Idle e) (hqueue : e.schedule.queue = .turn i :: schedule.queue) :
    make (.turn i) { e with schedule } = { e with schedule, isAwake := true } ∧
      Idle { e with schedule, isAwake := true } := by
  obtain ⟨p, htasks, hid, hwork, hgoing, hlined⟩ := h.party
  rw [hqueue] at hlined
  have htaken := hlined.take
  obtain ⟨p', hp', hi, -⟩ := htaken.ready i List.mem_cons_self
  obtain rfl := List.mem_singleton.1 hp'
  obtain rfl : i = outside := hi.symm.trans hid
  have hasleep : e.isAwake = false := by
    cases hawake : e.isAwake with
    | false => rfl
    | true =>
      rw [hawake] at htaken
      exact absurd List.mem_cons_self (List.nodup_cons.1 htaken.once).1
  rw [hasleep] at htaken
  have htask : task? outside { e with schedule } = some p' := by
    rw [task?, show ({ e with schedule } : Engine).tasks = [p'] from htasks, List.find?_cons_of_pos]
    exact beq_iff_eq.2 hid
  refine ⟨?_, h.change htasks hid hwork hgoing (htaken.wake_outside fun q hq => ?_)
    (fun c' hc' _ => ?_) rfl rfl h.mild rfl rfl⟩
  · rw [make, htask]
    exact (runTask_outside hgoing hwork).trans (wakeOutside_awake h.stopping)
  · have hnone : pendingOf [p'] = [] := by
      rw [pendingOf, List.filterMap_cons_none (by rw [Task.pending?, hwork]; rfl)]
      rfl
    rw [hnone] at hq
    cases hq
  · rw [hqueue]
    exact List.mem_cons_of_mem _ hc'

lemma unmoved_settled (k : Nat) (i : TaskId) (e : Engine) : Unmoved e (e.settled k i) := by
  refine .same (accounts_of_ground (ground_of_base (base_settled k i e)))
    (map_modify fun _ _ => ?_) rfl rfl
  rfl

lemma settled (h : Idle e) (k : Nat) (i : TaskId) : Idle (e.settled k i) := by
  obtain ⟨p, htasks, hid, hwork, hgoing, hlined⟩ := h.party
  have hunmoved := unmoved_settled k i e
  refine h.change htasks hid hwork hgoing hlined (fun _ hc _ => hc) ?_ rfl h.mild
    hunmoved.closings hunmoved.stances
  rw [helm_of_base (base_settled k i e)]

/-- The party outside may learn that somebody has ended whom it waits for. -/
lemma gathered (h : Idle e) (i : TaskId) : Idle (e.gathered i) := by
  obtain ⟨p, htasks, hid, hwork, hgoing, hlined⟩ := h.party
  have hwithout : Idle { e with
      tasks := e.tasks.map fun (t : Task) => { t with wait := t.wait.without i } } := by
    refine h.change (p := { p with wait := p.wait.without i }) ?_ hid hwork hgoing
      (hlined.map (f := fun t => { t with wait := t.wait.without i }) (fun _ => rfl)
        (fun _ => rfl) fun t => ?_) (fun _ hc _ => hc) rfl rfl h.mild rfl rfl
    · rw [htasks]
      rfl
    · cases t.wait with
      | _ => simp [Wait.without]
  exact hwithout.wake fun _ => ne_turn_of_beq (by rintro ⟨⟩)

lemma call (h : Idle e) (hcall : InOrder e e') : Idle e' ∧ Unmoved e e' := by
  cases hcall with
  | due alarms s hqueue =>
    obtain ⟨p, htasks, hid, hwork, hgoing, hlined⟩ := h.party
    refine ⟨h.change htasks hid hwork hgoing (hlined.congr ?_) (fun c hc htold => ?_) rfl rfl h.mild
      rfl rfl, .same rfl rfl rfl rfl⟩
    · rw [hqueue, turnsOf_append, turnsOf_alarms, List.append_nil]
    · rw [hqueue] at hc
      refine (List.mem_append.1 hc).resolve_right fun hc => htold ?_
      obtain ⟨a, -, rfl⟩ := List.mem_map.1 hc
      rfl
  | call c s hqueue =>
    cases c with
    | turn i =>
      obtain ⟨hmake, hidle⟩ := h.turn hqueue
      rw [hmake]
      exact ⟨hidle, .same rfl rfl rfl rfl⟩
    | alarm a =>
      have hpop := h.pop hqueue rfl
      cases a with
      | ring i number =>
        refine ⟨hpop.wake fun t ht => ?_, .same rfl rfl rfl rfl⟩
        exact ne_turn_of_beq (by rintro ⟨⟩) (Bool.and_eq_true_iff.1 ht).2
      | release =>
        exact ⟨hpop.wake fun _ => ne_turn_of_beq (by rintro ⟨⟩), .same rfl rfl rfl rfl⟩
      | request =>
        obtain ⟨p, htasks, hid, hwork, hgoing, hlined⟩ := hpop.party
        have hrequest : Idle { e with schedule := s, isRequested := true } :=
          hpop.change htasks hid hwork hgoing hlined (fun _ hc _ => hc) rfl rfl h.mild rfl rfl
        exact ⟨hrequest.wake fun _ => ne_turn_of_beq (by rintro ⟨⟩), .same rfl rfl rfl rfl⟩
    | settled k i =>
      have hunmoved := unmoved_settled k i { e with schedule := s }
      exact ⟨(h.pop hqueue rfl).settled k i,
        @Unmoved.trans e { e with schedule := s } _ (.same rfl rfl rfl rfl) hunmoved⟩
    | gathered i => exact ⟨(h.pop hqueue rfl).gathered i, .same rfl rfl rfl rfl⟩

/-- The party outside may sleep. -/
lemma asleep (h : Idle e) (hawake : e.isAwake = true) (delay : Binary64) :
    Idle { e.awaitTime outside .outside delay with isAwake := false } := by
  obtain ⟨p, htasks, hid, hwork, hgoing, hlined⟩ := h.party
  rw [hawake] at hlined
  have hbusy := hlined.of_awake
  have halter : ∀ f : Task → Task, (e.alterTask outside f).tasks = [f p] := by
    intro f
    rw [alterTask, htasks, List.map_singleton, if_pos hid]
  rw [awaitTime]
  split_ifs
  · refine h.change (p := { p with work := .outside, wait := .turn }) ?_ hid rfl hgoing ?_
      (fun c hc htold => ?_) rfl rfl h.mild rfl rfl
    · exact halter fun t => { t with work := .outside, wait := .turn }
    · have hrequeued := hbusy.requeue (f := fun t => { t with work := .outside, wait := .turn })
        (fun _ => rfl) (fun _ => rfl) fun _ => rfl
      rw [List.map_singleton, if_pos hid] at hrequeued
      exact hrequeued
    · refine (List.mem_append.1 hc).resolve_right fun hc => htold ?_
      rw [List.mem_singleton.1 hc]
      rfl
  · obtain ⟨f, hf⟩ : ∃ f : Task → Task, f = fun t => { t with
        work := .outside, wait := .timer e.schedule.nextTimer
        timer := some e.schedule.nextTimer } := ⟨_, rfl⟩
    refine h.change (p := f p) ?_ ?_ ?_ ?_ ?_ (fun c hc _ => hc) rfl rfl h.mild rfl rfl
    · rw [hf]
      exact halter _
    · rw [hf]
      exact hid
    · rw [hf]
    · rw [hf]
      exact hgoing
    · have hwaiting := hbusy.await (f := f) (fun _ => hf ▸ rfl) fun _ => by
        rw [hf]
        rintro ⟨⟩
      rw [List.map_singleton, if_pos hid] at hwaiting
      exact hwaiting

lemma unmoved_arrive (a : Arrival) (e : Engine) :
    Unmoved e { e with feed := e.feed.arrive a } := by
  refine ⟨rfl, rfl, rfl, ?_, ?_, rfl, rfl, rfl⟩
  · exact map_alter_id (g := fun s => { s with inbox := s.inbox ++ [a] }) (fun _ => rfl) _ e.feed
  · exact closings_arrive a e.feed

lemma arrive (h : Idle e) (a : Arrival) : Idle (e.arrive a) := by
  obtain ⟨p, htasks, hid, hwork, hgoing, hlined⟩ := h.party
  have hunmoved := unmoved_arrive a e
  have hmild : (e.feed.arrive a).ClosesMildly :=
    h.mild.alter (f := fun s => { s with inbox := s.inbox ++ [a] }) (fun _ => rfl) _
  have hidle : Idle { e with feed := e.feed.arrive a } :=
    h.change htasks hid hwork hgoing hlined (fun _ hc _ => hc) rfl rfl hmild
      hunmoved.closings hunmoved.stances
  exact hidle.wake fun _ => ne_turn_of_beq (by rintro ⟨⟩)

/-- Whatever happens to an idle watcher, it stays idle, and nobody moves. -/
theorem happen (h : Idle e) (hhappens : Happens e e') : Idle e' ∧ Unmoved e e' := by
  obtain ⟨p, htasks, hid, hwork, hgoing, hlined⟩ := h.party
  cases hhappens with
  | call hcall => exact h.call hcall
  | sleep delay hawake =>
    refine ⟨h.asleep hawake delay, .same ?_ ?_ ?_ ?_⟩
    all_goals rw [awaitTime]
    all_goals split_ifs
    all_goals rfl
  | arrive a => exact ⟨h.arrive a, (unmoved_arrive a e).trans (.same rfl rfl rfl rfl)⟩
  | @operate α s f hs =>
    have hunmoved : Unmoved e (e.operate (e.stations.length - 1) s f).1 :=
      .same (accounts_keep _ _ e) (stances_keep _ _ e) rfl rfl
    refine ⟨h.change ?_ hid hwork hgoing hlined (fun _ hc _ => hc) ?_ rfl h.mild hunmoved.closings
      hunmoved.stances, hunmoved⟩
    · show List.map _ e.tasks = _
      rw [htasks, List.map_singleton, hwork]
    · exact congrArg (fun h : Helm => { h with isAwake := true })
        (helm_keep (e.stations.length - 1) (f (e.session s)).1 e)
  | look =>
    obtain ⟨htasks', hschedule, hnext, hfeed, hnetwork⟩ := refresh_leaves e
    have hunmoved : Unmoved e e.refresh.1 :=
      .same (accounts_refresh e) (stances_refresh e) hfeed hnetwork
    have hhelm := helm_refresh e
    refine ⟨h.change (htasks'.trans htasks) hid hwork hgoing ?_ (fun c hc _ => ?_) ?_ hnext ?_
      hunmoved.closings hunmoved.stances, hunmoved⟩
    · rw [show e.refresh.1.isAwake = e.isAwake from congrArg Helm.isAwake hhelm, hschedule]
      exact hlined
    · rw [hschedule] at hc
      exact hc
    · rw [hhelm]
    · rw [hfeed]
      exact h.mild
  | world feed network disk hurls hsent hclosings hread hmild hlog hclosed =>
    have hunmoved : Unmoved e { e with feed, network, disk } :=
      ⟨rfl, rfl, hurls, hsent, hclosings, hread, hlog, hclosed⟩
    exact ⟨h.change htasks hid hwork hgoing hlined (fun _ hc _ => hc) rfl rfl hmild hclosings
      rfl, hunmoved⟩

/-- Before its first start a watcher is idle. -/
lemma create (setup : WatcherSetup) (epoch : Int) (disk : Disk) (network : Http.Network)
    {script : List Attempt} (hmild : ∀ a ∈ script, a.closeFails ≠ some .other) :
    Idle (Watcher.create setup epoch disk network (.ofScript script)).engine := by
  have hnone : ∀ {α : Type} {P : α → Prop}, ∀ a ∈ ([] : List α), P a :=
    fun _ ha => absurd ha List.not_mem_nil
  exact ⟨⟨_, rfl, rfl, rfl, rfl, .start⟩, hnone, Nat.zero_lt_one, hnone, ⟨hnone, hmild⟩, rfl, rfl,
    rfl, fun _ hs => nomatch hs⟩

/-- Requests of others and their files are no matter. -/
lemma elsewhere (h : Idle e) (network : Http.Network) (disk : Disk) :
    Idle { e with network, disk } := by
  obtain ⟨p, htasks, hid, hwork, hgoing, hlined⟩ := h.party
  exact h.change htasks hid hwork hgoing hlined (fun _ hc _ => hc) rfl rfl h.mild rfl rfl

/-! ## From one watch to the next -/

section

variable {pipeline : Pipeline}

/-- A station that is added sees nobody but the party outside. -/
lemma alone (h : Idle e) (hawake : e.isAwake = true) (session : Session) (stamp : Option Nat)
    (hreceived : pipeline.received = []) :
    ∃ p, Alone p ({ e.addStation session pipeline with stamp }.focus e.stations.length
      e.feed.read.length none) := by
  obtain ⟨p, htasks, hid, hwork, hgoing, hlined⟩ := h.party
  obtain ⟨n, hn⟩ : ∃ n, n = e.stations.length := ⟨_, rfl⟩
  rw [← hn]
  refine ⟨p.inFocus n none, ?_, hid, if_pos (.inl hid), hwork, ?_, hawake, ?_, h.next, ?_, h.closed,
    List.drop_length, ?_⟩
  · show e.tasks.map (Task.inFocus n none) = _
    rw [htasks]
    rfl
  · rw [inFocus_cancelled (by rintro ⟨⟩)]
    exact hgoing
  · rw [hawake] at hlined
    refine (hlined.map (f := Task.inFocus n none) (fun _ => rfl) (fun _ => rfl)
      fun _ => Iff.rfl).congr ?_
    rw [turns_focus]
    rfl
  · refine ⟨⟨session.index, session.registry, pipeline, .initial⟩, ?_, rfl, hreceived⟩
    rw [stations_focus, hn]
    exact List.drop_left
  · show Stopping.inFocus e.stopping = none
    rw [h.stopping]
    rfl

/-- So it is tended. -/
lemma tended (h : Idle e) (session : Session) (stamp : Option Nat)
    (halone : Alone p ({ e.addStation session pipeline with stamp }.focus e.stations.length
      e.feed.read.length none)) :
    Tended none ({ e.addStation session pipeline with stamp }.focus e.stations.length
      e.feed.read.length none) := by
  refine halone.tended ⟨h.mild.sockets, h.mild.script⟩ h.failure fun c hc i hi => ?_
  obtain ⟨c', hc', rfl⟩ := List.mem_map.1 hc
  rw [Call.told?_inFocus] at hi
  exact h.told c' hc' i hi

/-- An idle watcher that is started is on the watch. -/
theorem watching (h : Idle e) (hawake : e.isAwake = true) (session : Session) (stamp : Option Nat)
    (hreceived : pipeline.received = []) :
    Watching e.stations.length e.feed.read.length
      (({ e.addStation session pipeline with stamp }.startListener
        e.stations.length).startRefresher e.stations.length) := by
  obtain ⟨p, halone⟩ := h.alone hawake session stamp hreceived
  have htended := h.tended session stamp halone
  obtain ⟨n, hn⟩ : ∃ n, n = e.stations.length := ⟨_, rfl⟩
  obtain ⟨m, hm⟩ : ∃ m, m = e.feed.read.length := ⟨_, rfl⟩
  obtain ⟨E, hE⟩ : ∃ E, E = { e.addStation session pipeline with stamp } := ⟨_, rfl⟩
  rw [← hn, ← hm, ← hE] at halone htended ⊢
  obtain ⟨st, hst, hinitial, -⟩ := halone.station
  have hstopped : ((E.focus n m none).listener 0).running = false := by
    rw [listener, hst, List.getElem?_cons_zero, Option.map_some, Option.getD_some, hinitial]
    rfl
  obtain ⟨hstarted, hrunning⟩ := htended.startListener halone.awake
    (fun t ht => by rw [halone.tasks] at ht; rw [List.mem_singleton.1 ht]; exact halone.going)
    hstopped halone.stopping
  have hrefreshed := hstarted.startRefresher hrunning
  rw [← focus_startListener, ← focus_startRefresher, nextTask_focus] at hrefreshed
  have hsame : (E.startListener n).feed = e.feed ∧ (E.startListener n).stopping = none := by
    rw [startListener, hE]
    split_ifs
    · exact ⟨rfl, h.stopping⟩
    · exact ⟨rfl, h.stopping⟩
  refine ⟨?_, hsame.2, _, rfl, hrefreshed⟩
  show m ≤ (E.startListener n).feed.read.length
  rw [hsame.1, hm]

end

/-- An idle watcher has nothing to stop. -/
lemma stopWatching (h : Idle e) (hawake : e.isAwake = true) :
    Engine.stopWatching { e with failure := none } = e := by
  have hfailure : ({ e with failure := none } : Engine) = e := by rw [← h.failure]
  have hend : e.endStop none = e := by
    rw [endStop, ← h.stopping, ← h.failure, ← hawake]
  rw [hfailure, Engine.stopWatching]
  cases hlast : e.stations.getLast? with
  | none =>
    have hnewest : e.newest? = none := by
      rw [newest?, if_pos]
      exact List.isEmpty_iff.2 (List.getLast?_eq_none_iff.1 hlast)
    simp only [h.refresher, hnewest]
    exact hend
  | some s =>
    have hnewest := newest?_of_getLast? hlast
    have hstopped : (e.listener (e.stations.length - 1)).running = false := by
      rw [listener, ← List.getLast?_eq_getElem?, hlast]
      exact (h.rests s hlast).1
    simp only [h.refresher, hnewest]
    rw [stopListening, if_neg (Bool.eq_false_iff.1 hstopped)]
    exact hend

/-- Closing clients is no matter. -/
lemma closeClients (h : Idle e) : Idle (Watcher.closeClients e) := by
  cases hlast : e.stations.getLast? with
  | none =>
    rw [closeClients_of_none hlast]
    exact h
  | some s =>
    rw [closeClients_eq hlast]
    refine ⟨h.party, h.told, h.next, h.closed, h.mild, h.refresher, h.stopping, h.failure,
      fun s' hs' => ?_⟩
    obtain ⟨hrunning, hphase⟩ := h.rests s hlast
    rw [List.getLast?_eq_getElem?] at hlast hs'
    simp only [alterStation, List.length_modify, List.getElem?_modify_eq] at hs'
    rw [hlast] at hs'
    obtain rfl := Option.some.inj hs'
    exact ⟨hrunning, hphase⟩

end Idle

/-! ## A watch is over -/

/-- The party outside wakes up only when stopping is over. -/
lemma Stopped.over (h : Stopped n m e) (hawake : e.isAwake = true) : e.stopping = none := by
  by_contra hsome
  obtain ⟨st, hst⟩ := Option.ne_none_iff_exists'.1 hsome
  have hseen : (e.focus n m none).outline.stopping = some st := by
    show Stopping.inFocus e.stopping = some st
    rw [hst]
    cases st with
    | refresher => exact absurd hst h.passed.stopping
    | _ => rfl
  obtain ⟨-, hasleep, -⟩ := h.tended.rest.sound.halts.stops st hseen
  exact absurd hawake (Bool.eq_false_iff.1 hasleep)

/-- The newest station is tended until the end. -/
lemma Ending.tended (h : Ending n m e) :
    ∃ μ ρ, (∀ r, μ = some r → ρ = some r) ∧ Tended ρ (e.focus n m μ) := by
  obtain h | h | h := h
  · obtain ⟨r, htended, -⟩ := h.tended
    exact ⟨some r, some r, fun _ => id, htended⟩
  · exact ⟨none, none, fun _ => id, h.tended⟩
  · exact ⟨none, none, fun _ => id, h.tended⟩

/-- The party outside wakes up only when the listener was stopped. -/
lemma Ending.stopped (h : Ending n m e) (hawake : e.isAwake = true) : Stopped n m e := by
  obtain h | h | h := h
  · exact absurd hawake (Bool.eq_false_iff.1 h.asleep)
  · exact absurd hawake (Bool.eq_false_iff.1 h.asleep)
  · exact h

/-- When stopping is over, everything has come to its end at the station. -/
lemma Stopped.wound_up (h : Stopped n m e) (hawake : e.isAwake = true) :
    (∀ t ∈ (e.focus n m none).tasks, t.id = outside ∧ t.work = .outside ∧ t.cancelled = false) ∧
      ((e.focus n m none).listener 0).phase = .disconnected ∧
      (e.focus n m none).received = dataFramesOf (e.feed.read.drop m) ∧
      ∀ s ∈ e.feed.sockets, s.closings ≠ 0 := by
  refine h.tended.wound_up ?_ ?_
  · rw [listener_focus]
    exact h.stopped
  · show Stopping.inFocus e.stopping = none
    rw [h.over hawake]
    rfl

/-- When stopping is over, the newest station has received the frames that were read since its
start. -/
lemma Stopped.received (h : Stopped n m e) (hawake : e.isAwake = true) {s : Station}
    (hlast : e.stations.getLast? = some s) :
    s.pipeline.received = dataFramesOf (e.feed.read.drop m) := by
  obtain ⟨-, -, hreceived, -⟩ := h.wound_up hawake
  obtain ⟨st, hst⟩ := h.tended.rest.orderly.station
  obtain rfl : st = s := Option.some.inj ((newest?_of_focus hst).2.1.symm.trans hlast)
  rw [Engine.received, hst] at hreceived
  exact hreceived

/-- When stopping is over, there is only one task. -/
lemma Stopped.only (h : Stopped n m e) (hawake : e.isAwake = true) :
    ∃ p, e.tasks = [p] ∧ p.id = outside ∧ p.work = .outside ∧ p.cancelled = false := by
  obtain ⟨hparty, -⟩ := h.wound_up hawake
  have hall : ∀ t ∈ e.tasks, t.id = outside ∧ t.work = .outside ∧ t.cancelled = false := by
    intro t ht
    obtain ⟨hid, hwork, hgoing⟩ := hparty _ (List.mem_map_of_mem ht)
    rw [inFocus_cancelled (by rintro ⟨⟩)] at hgoing
    exact ⟨hid, hwork, hgoing⟩
  have hunique : (e.tasks.map Task.id).Nodup := by
    have hmap : (e.focus n m none).tasks.map Task.id = e.tasks.map Task.id := by
      show (e.tasks.map (Task.inFocus n none)).map Task.id = _
      rw [List.map_map]
      rfl
    exact hmap ▸ h.tended.rest.orderly.unique
  have hlive : e.isLive outside = true := by
    have hduty := h.tended.rest.sound.slots.party
    rw [outline_duty] at hduty
    obtain ⟨t, ht, -⟩ := Option.map_eq_some_iff.1 hduty
    rw [← isLive_focus (n := n) (m := m) (ρ := none), isLive, ht]
    rfl
  -- the party outside is there, and there is nobody else of its number
  obtain ⟨p, hp, -⟩ := exists_mem_of_isLive hlive
  have hids : e.tasks.map Task.id = List.replicate e.tasks.length outside := by
    refine List.eq_replicate_iff.2 ⟨List.length_map _, fun i hi => ?_⟩
    obtain ⟨t, ht, rfl⟩ := List.mem_map.1 hi
    exact (hall t ht).1
  rw [hids, List.nodup_replicate] at hunique
  obtain ⟨q, hq⟩ := List.length_eq_one_iff.1
    (Nat.le_antisymm hunique (List.length_pos_of_mem hp))
  exact ⟨q, hq, hall q (hq ▸ List.mem_singleton_self q)⟩

/-- Then the queue holds turns for it alone. -/
lemma Stopped.lined (h : Stopped n m e) (htasks : e.tasks = [p]) :
    Lined none e.isAwake [p] e.schedule.queue := by
  have hfocus := h.tended.rest.orderly.lined trivial
  have htasks' : (e.focus n m none).tasks = [p.inFocus n none] := by
    show e.tasks.map (Task.inFocus n none) = _
    rw [htasks]
    rfl
  rw [htasks', isAwake_focus] at hfocus
  have hback := (hfocus.map (f := fun t => { t with
    station := p.station, cancelled := p.cancelled }) (fun _ => rfl) (fun _ => rfl)
    fun _ => Iff.rfl).congr (turns_focus n m none e).symm
  exact hback

/-- When stopping is over, the watcher is idle. -/
theorem Stopped.idle (h : Stopped n m e) (hawake : e.isAwake = true) : Idle e := by
  obtain ⟨-, hphase, -, hclosed⟩ := h.wound_up hawake
  obtain ⟨p, htasks, hid, hwork, hgoing⟩ := h.only hawake
  refine ⟨⟨p, htasks, hid, hwork, hgoing, h.lined htasks⟩, fun c hc i hi => ?_,
    h.tended.rest.orderly.party, hclosed,
    ⟨h.tended.crew.mild.sockets, h.tended.crew.mild.script⟩, h.passed.refresher, h.over hawake,
    h.tended.winding.failure, fun s hs => ?_⟩
  · rw [← c.told?_inFocus n] at hi
    obtain ⟨hdone, hlt⟩ := h.tended.crew.told _ (List.mem_map_of_mem hc) i hi
    refine ⟨fun heq => ?_, hlt⟩
    refine hdone (p.inFocus n none) ?_ (hid.trans heq.symm)
    exact List.mem_map_of_mem (htasks ▸ List.mem_singleton_self p)
  · rw [List.getLast?_eq_getElem?, h.tended.newest, Nat.add_sub_cancel] at hs
    have hlistener : e.listener n = s.listener := by
      rw [listener, hs]
      rfl
    rw [← hlistener]
    rw [listener_focus] at hphase
    exact ⟨h.stopped, hphase⟩

end Engine

end FeedWatch
