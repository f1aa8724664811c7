import FeedWatch.Proofs.Engine.Timers
import FeedWatch.Proofs.Listener.View

/-!
# What leaves heartbeats alone

Only the turns of a heartbeat's own task, and the timers it waits for, bring the heartbeat on.
`Aside` says that something happens aside from the heartbeats on a socket: those that go on
afterwards went on before and are where they were, and a heartbeat that is new begins with a wait on
a new socket.  `Quiet` says in addition that no connection is made or lost meanwhile.  There is one
lemma for each way to change the tasks, and one for each function of the engine.
-/

namespace FeedWatch

/-- The socket of a heartbeat. -/
def Work.socket? : Work → Option Nat
  | rest socket | beat socket | sent socket _ => some socket
  | _ => none

/-- Whether a connection is being made. -/
def Work.dials : Work → Bool
  | connect | connected _ => true
  | _ => false

lemma Work.dials_eq_false {w : Work} {s : Nat} (h : w.socket? = some s) : w.dials = false := by
  cases w with
  | connect => cases h
  | connected _ => cases h
  | _ => rfl

/-- The timer that is waited for. -/
def Wait.timer? : Wait → Option Nat
  | timer number => some number
  | _ => none

/-- The texts that were sent on a socket. -/
def Feed.textsOn (socket : Nat) (feed : Feed) : List String :=
  feed.sockets[socket]?.elim [] Socket.sent

lemma Feed.length_alter (socket : Nat) (f : Socket → Socket) (feed : Feed) :
    (feed.alter socket f).sockets.length = feed.sockets.length :=
  List.length_modify _ _ _

lemma Feed.textsOn_alter {f : Socket → Socket} (hf : ∀ so, (f so).sent = so.sent)
    (s socket : Nat) (feed : Feed) : (feed.alter socket f).textsOn s = feed.textsOn s := by
  rw [textsOn, alter, List.getElem?_modify, textsOn]
  cases feed.sockets[s]? with
  | none => rfl
  | some so =>
    by_cases hs : socket = s
    · simp [hs, hf]
    · simp [hs]

/-- A task is where it was, unless it is cancelled now. -/
structure Task.Continues (t t' : Task) : Prop where
  id : t'.id = t.id
  work : t'.work = t.work
  going : t'.cancelled = false → t.cancelled = false ∧ t'.wait.timer? = t.wait.timer?

/-- Of the tasks with certain work, those that are there afterwards were there before. -/
def Inherits (p : Work → Prop) (ts ts' : List Task) : Prop :=
  ∀ t' ∈ ts', p t'.work → ∃ t ∈ ts, t.Continues t'

variable {p : Work → Prop} {ts ts' ts'' : List Task} {t t' t'' : Task} {w : Work} {i : TaskId}

/-! ## Tasks -/

lemma Task.Continues.refl (t : Task) : t.Continues t := ⟨rfl, rfl, fun h => ⟨h, rfl⟩⟩

lemma Task.Continues.trans (h : t.Continues t') (h' : t'.Continues t'') : t.Continues t'' := by
  refine ⟨h'.id.trans h.id, h'.work.trans h.work, fun hgoing => ?_⟩
  obtain ⟨hgoing', htimer'⟩ := h'.going hgoing
  obtain ⟨hgoing'', htimer⟩ := h.going hgoing'
  exact ⟨hgoing'', htimer'.trans htimer⟩

namespace Inherits

lemma of_subset (h : ∀ t ∈ ts', t ∈ ts) : Inherits p ts ts' :=
  fun t ht _ => ⟨t, h t ht, .refl t⟩

lemma refl (ts : List Task) : Inherits p ts ts := of_subset fun _ => id

lemma trans (h : Inherits p ts ts') (h' : Inherits p ts' ts'') : Inherits p ts ts'' := by
  intro t'' ht'' hp
  obtain ⟨t', ht', hcontinues'⟩ := h' t'' ht'' hp
  obtain ⟨t, ht, hcontinues⟩ := h t' ht' (hcontinues'.work ▸ hp)
  exact ⟨t, ht, hcontinues.trans hcontinues'⟩

/-- Each task stays where it is, or goes on to other work. -/
lemma map {f : Task → Task} (hf : ∀ t ∈ ts, p (f t).work → t.Continues (f t)) :
    Inherits p ts (ts.map f) := by
  intro t' ht' hp
  obtain ⟨t, ht, rfl⟩ := List.mem_map.1 ht'
  exact ⟨t, ht, hf t ht hp⟩

/-- A task is added that does other work. -/
lemma concat (ht : ¬ p t.work) (ts : List Task) : Inherits p ts (ts ++ [t]) := by
  intro t' ht' hp
  obtain ht' | ht' := List.mem_append.1 ht'
  · exact ⟨t', ht', .refl t'⟩
  · rw [List.mem_singleton.1 ht'] at hp
    exact absurd hp ht

/-- A task goes on to other work. -/
lemma alter {f : Task → Task} (hf : ∀ t, ¬ p (f t).work) (i : TaskId) (ts : List Task) :
    Inherits p ts (ts.map fun t => if t.id = i then f t else t) := by
  refine map fun t _ hp => ?_
  split_ifs at hp ⊢
  · exact absurd hp (hf t)
  · exact .refl t

/-- Tasks join the queue that do not wait for a timer, or are cancelled. -/
lemma wake {q : Task → Bool}
    (hq : ∀ t ∈ ts, q t = true → t.wait.timer? = none ∨ t.cancelled = true) :
    Inherits p ts (ts.map fun t => if q t then { t with wait := .turn } else t) := by
  refine map fun t ht _ => ?_
  split_ifs with h
  · refine ⟨rfl, rfl, fun hgoing => ⟨hgoing, ?_⟩⟩
    obtain htimer | hcancelled := hq t ht h
    · exact htimer.symm
    · exact absurd hgoing (Bool.eq_false_iff.not_left.2 hcancelled)
  · exact .refl t

lemma cancel (i : TaskId) (ts : List Task) :
    Inherits p ts (ts.map fun t => if t.id = i then { t with cancelled := true } else t) := by
  refine map fun t _ _ => ?_
  split_ifs
  · exact ⟨rfl, rfl, by nofun⟩
  · exact .refl t

end Inherits

namespace Engine

/-! ## Where tasks come from -/

variable {e e' e'' : Engine} {s k : Nat} {q : Task → Bool} {f : Task → Task} {delay : Binary64}

lemma mem_wake (ht : t ∈ (e.wake q).tasks) : ∃ t₀ ∈ e.tasks, t.id = t₀.id ∧ t.work = t₀.work ∧
    t.cancelled = t₀.cancelled ∧ (t.wait = t₀.wait ∨ q t₀ = true ∧ t.wait = .turn) := by
  obtain ⟨t₀, ht₀, rfl⟩ := List.mem_map.1 ht
  split_ifs with hq
  · exact ⟨t₀, ht₀, rfl, rfl, rfl, .inr ⟨hq, rfl⟩⟩
  · exact ⟨t₀, ht₀, rfl, rfl, rfl, .inl rfl⟩

/-- Tasks that wake only join the queue. -/
lemma extends_wake (q : Task → Bool) (e : Engine) : e.schedule.Extends (e.wake q).schedule := by
  refine .append _ fun i n hn => ?_
  obtain ⟨t, -, ht⟩ := List.mem_map.1 hn
  cases ht

/-- A task that waits for a time waits for the next timer, or has its turn without delay. -/
lemma mem_awaitTime (ht : t ∈ (e.awaitTime i w delay).tasks) :
    (t ∈ e.tasks ∧ t.id ≠ i) ∨ ∃ t₀ ∈ e.tasks, t₀.id = i ∧ t.id = i ∧ t.work = w ∧
      t.cancelled = t₀.cancelled ∧ t.wait.timer? =
        if delay.isZero || delay.isNegative then none else some e.schedule.nextTimer := by
  rw [awaitTime] at ht
  split_ifs at ht ⊢
  · obtain hold | ⟨t₀, ht₀, hid, rfl⟩ := mem_alterTask ht
    · exact .inl hold
    · exact .inr ⟨t₀, ht₀, hid, hid, rfl, rfl, rfl⟩
  · obtain hold | ⟨t₀, ht₀, hid, rfl⟩ := mem_alterTask ht
    · exact .inl hold
    · exact .inr ⟨t₀, ht₀, hid, hid, rfl, rfl, rfl⟩

/-- Of the tasks that are not cancelled, none is the one that was to be cancelled. -/
lemma mem_cancel (ht : t ∈ (e.cancel i).tasks) : ∃ t₀ ∈ e.tasks, t.id = t₀.id ∧ t.work = t₀.work ∧
    (t.cancelled = false → t₀.cancelled = false ∧ t.id ≠ i) := by
  obtain ⟨t₁, ht₁, hid, hwork, hcancelled, -⟩ := mem_wake ht
  obtain ⟨hold, hne⟩ | ⟨t₀, hold, -, rfl⟩ := mem_alterTask ht₁
  · exact ⟨t₁, hold, hid, hwork, fun hgoing => ⟨hcancelled.symm.trans hgoing, hid ▸ hne⟩⟩
  · refine ⟨t₀, hold, hid, hwork, fun hgoing => ?_⟩
    rw [hcancelled] at hgoing
    cases hgoing

lemma mem_finishTask (ht : t ∈ (e.finishTask i).tasks) :
    ∃ t₀ ∈ e.tasks, t.id = t₀.id ∧ t.work = t₀.work ∧ t.id ≠ i := by
  obtain ⟨t₀, ht₀, hid, hwork, -, -⟩ := mem_wake ht
  obtain ⟨hold, hne⟩ := List.mem_filter.1 ht₀
  exact ⟨t₀, hold, hid, hwork, fun h => bne_iff_ne.1 hne (hid.symm.trans h)⟩

/-! ## Aside from the heartbeats on a socket -/

/-- Something happens aside from the heartbeats on a socket. -/
structure Aside (s : Nat) (e e' : Engine) : Prop where
  beats : ∃ i, ∀ t' ∈ e'.tasks, t'.work.socket? = some s → (∃ t ∈ e.tasks, t.Continues t') ∨
    t'.id = i ∧ t'.work = .rest s ∧ e.feed.sockets.length ≤ s ∧ s < e'.feed.sockets.length
  schedule : e.schedule.Extends e'.schedule
  sockets : e.feed.sockets.length ≤ e'.feed.sockets.length
  texts : e'.feed.textsOn s = e.feed.textsOn s
  timing : e'.timing = e.timing

namespace Aside

lemma of_inherits (htasks : Inherits (·.socket? = some s) e.tasks e'.tasks)
    (hschedule : e.schedule.Extends e'.schedule) (hfeed : e'.feed = e.feed)
    (htiming : e'.timing = e.timing) : Aside s e e' :=
  ⟨⟨0, fun t' ht' hs => .inl (htasks t' ht' hs)⟩, hschedule, Nat.le_of_eq (by rw [hfeed]),
    by rw [hfeed], htiming⟩

lemma same (htasks : e'.tasks = e.tasks) (hschedule : e.schedule.Extends e'.schedule)
    (hfeed : e'.feed = e.feed) (htiming : e'.timing = e.timing) : Aside s e e' :=
  of_inherits (htasks ▸ .refl _) hschedule hfeed htiming

lemma refl (e : Engine) : Aside s e e := same rfl (.refl _) rfl rfl

lemma trans (h : Aside s e e') (h' : Aside s e' e'') : Aside s e e'' := by
  obtain ⟨i, hbeats⟩ := h.beats
  obtain ⟨i', hbeats'⟩ := h'.beats
  -- the socket is new in one of the two parts at most
  refine ⟨⟨if s < e'.feed.sockets.length then i else i', fun t'' ht'' hs => ?_⟩,
    h.schedule.trans h'.schedule, Nat.le_trans h.sockets h'.sockets, h'.texts.trans h.texts,
    h'.timing.trans h.timing⟩
  obtain ⟨t', ht', hcontinues'⟩ | ⟨hid, hwork, hnew, hlt⟩ := hbeats' t'' ht'' hs
  · obtain ⟨t, ht, hcontinues⟩ | ⟨hid, hwork, hnew, hlt⟩ :=
      hbeats t' ht' (hcontinues'.work ▸ hs)
    · exact .inl ⟨t, ht, hcontinues.trans hcontinues'⟩
    · refine .inr ⟨?_, hcontinues'.work.trans hwork, hnew, Nat.lt_of_lt_of_le hlt h'.sockets⟩
      rw [if_pos hlt, hcontinues'.id, hid]
  · refine .inr ⟨?_, hwork, Nat.le_trans h.sockets hnew, hlt⟩
    rw [if_neg (Nat.not_lt.2 hnew), hid]

/-- A task goes on to other work. -/
lemma alterTask {f : Task → Task} (hf : ∀ t, (f t).work.socket? ≠ some s) (i : TaskId) :
    Aside s e (e.alterTask i f) :=
  of_inherits (.alter hf i e.tasks) (.refl _) rfl rfl

lemma await (hw : w.socket? ≠ some s) (i : TaskId) (wait : Wait) : Aside s e (e.await i w wait) :=
  alterTask (fun _ => hw) i

lemma enqueue {c : Call} (hc : c.ring? = none) : Aside s e (e.enqueue c) :=
  same rfl (.enqueue hc) rfl rfl

lemma awaitTime (hw : w.socket? ≠ some s) (i : TaskId) (delay : Binary64) :
    Aside s e (e.awaitTime i w delay) := by
  rw [Engine.awaitTime]
  split_ifs
  · exact (alterTask (fun _ => hw) i).trans (enqueue rfl)
  · exact of_inherits (.alter (fun _ => hw) i e.tasks) (.setTimer delay i) rfl rfl

lemma alterListener (k : Nat) (f : Listener → Listener) : Aside s e (e.alterListener k f) :=
  same rfl (.refl _) rfl rfl

end Aside

/-! ## Without a change of the connection -/

/-- Something happens aside from all heartbeats; no connection is made or lost, or begun to be made
by a listener that is not running. -/
structure Quiet (e e' : Engine) : Prop where
  aside : ∀ s, Aside s e e'
  sockets : e'.feed.sockets.length = e.feed.sockets.length
  running : (e'.listener 0).running = (e.listener 0).running
  held : (e.listener 0).running = true →
    (e'.listener 0).heartbeat = (e.listener 0).heartbeat ∧
      (e'.listener 0).socket = (e.listener 0).socket ∧
      (e'.listener 0).phase = (e.listener 0).phase
  dials : (e.listener 0).running = false → Inherits (·.dials = true) e.tasks e'.tasks

namespace Quiet

lemma of_inherits (hbeats : ∀ s, Inherits (·.socket? = some s) e.tasks e'.tasks)
    (hdials : (e.listener 0).running = false → Inherits (·.dials = true) e.tasks e'.tasks)
    (hschedule : e.schedule.Extends e'.schedule) (hfeed : e'.feed = e.feed)
    (htiming : e'.timing = e.timing) (hlistener : e'.listener 0 = e.listener 0) : Quiet e e' :=
  ⟨fun s => .of_inherits (hbeats s) hschedule hfeed htiming, by rw [hfeed], by rw [hlistener],
    fun _ => by rw [hlistener]; exact ⟨rfl, rfl, rfl⟩, hdials⟩

lemma same (htasks : e'.tasks = e.tasks) (hschedule : e.schedule.Extends e'.schedule)
    (hfeed : e'.feed = e.feed) (htiming : e'.timing = e.timing)
    (hlistener : e'.listener 0 = e.listener 0) : Quiet e e' :=
  of_inherits (fun _ => htasks ▸ .refl _) (fun _ => htasks ▸ .refl _) hschedule hfeed htiming
    hlistener

lemma refl (e : Engine) : Quiet e e := same rfl (.refl _) rfl rfl rfl

lemma trans (h : Quiet e e') (h' : Quiet e' e'') : Quiet e e'' := by
  refine ⟨fun s => (h.aside s).trans (h'.aside s), h'.sockets.trans h.sockets,
    h'.running.trans h.running, fun hrunning => ?_, fun hrunning => ?_⟩
  · obtain ⟨hheartbeat, hsocket, hphase⟩ := h.held hrunning
    obtain ⟨hheartbeat', hsocket', hphase'⟩ := h'.held (h.running.trans hrunning)
    exact ⟨hheartbeat'.trans hheartbeat, hsocket'.trans hsocket, hphase'.trans hphase⟩
  · exact (h.dials hrunning).trans (h'.dials (h.running.trans hrunning))

lemma withFeed {feed : Feed} (hsockets : feed.sockets.length = e.feed.sockets.length)
    (htexts : ∀ s, feed.textsOn s = e.feed.textsOn s) : Quiet e { e with feed } :=
  ⟨fun s => ⟨⟨0, fun t ht _ => .inl ⟨t, ht, .refl t⟩⟩, .refl _, Nat.le_of_eq hsockets.symm,
    htexts s, rfl⟩, hsockets, rfl, fun _ => ⟨rfl, rfl, rfl⟩, fun _ => .refl _⟩

/-! ### Stations -/

lemma listener_alterStation (k : Nat) (f : Station → Station) (e : Engine) :
    (e.alterStation k f).listener 0 = e.listener 0 ∨
      ∃ st, e.stations[0]? = some st ∧ (e.alterStation k f).listener 0 = (f st).listener := by
  rw [listener, Engine.alterStation, List.getElem?_modify, listener]
  cases e.stations[0]? with
  | none => exact .inl rfl
  | some st =>
    by_cases hk : k = 0
    · exact .inr ⟨st, rfl, by simp [hk]⟩
    · exact .inl (by simp [hk])

lemma alterStation (k : Nat) (f : Station → Station) (hf : ∀ st, (f st).listener = st.listener) :
    Quiet e (e.alterStation k f) := by
  refine same rfl (.refl _) rfl rfl ?_
  obtain h | ⟨st, hst, h⟩ := listener_alterStation k f e
  · exact h
  · rw [h, hf, listener, hst]
    rfl

lemma listener_alterListener (k : Nat) (f : Listener → Listener) (e : Engine) :
    (e.alterListener k f).listener 0 = e.listener 0 ∨
      (e.alterListener k f).listener 0 = f (e.listener 0) := by
  obtain h | ⟨st, hst, h⟩ :=
    listener_alterStation k (fun st => { st with listener := f st.listener }) e
  · exact .inl h
  · refine .inr (h.trans ?_)
    rw [listener, hst]
    rfl

lemma running_alterListener {f : Listener → Listener} (hf : ∀ l, (f l).running = l.running)
    (k : Nat) (e : Engine) :
    ((e.alterListener k f).listener 0).running = (e.listener 0).running := by
  obtain h | h := listener_alterListener k f e
  · rw [h]
  · rw [h, hf]

/-- While the listener runs, it stays with its heartbeat, its socket and its phase. -/
lemma alterListener (k : Nat) (f : Listener → Listener) (hrunning : ∀ l, (f l).running = l.running)
    (hheld : (e.listener 0).running = true → ∀ l : Listener,
      (f l).heartbeat = l.heartbeat ∧ (f l).socket = l.socket ∧ (f l).phase = l.phase) :
    Quiet e (e.alterListener k f) := by
  refine ⟨fun s => .alterListener k f, rfl, running_alterListener hrunning k e, fun h => ?_,
    fun _ => .refl _⟩
  obtain hl | hl := listener_alterListener k f e
  · rw [hl]
    exact ⟨rfl, rfl, rfl⟩
  · rw [hl]
    exact hheld h _

/-! ### Tasks -/

lemma enqueue {c : Call} (hc : c.ring? = none) : Quiet e (e.enqueue c) :=
  same rfl (.enqueue hc) rfl rfl rfl

lemma spawn (k : Nat) (hw : w.socket? = none)
    (hdials : w.dials = true → (e.listener 0).running = true) : Quiet e (e.spawn k w) := by
  refine of_inherits (fun s => .concat ?_ e.tasks) (fun hrunning => .concat ?_ e.tasks)
    (.enqueue rfl) rfl rfl rfl
  · rw [hw]
    nofun
  · intro h
    exact Bool.false_ne_true (hrunning.symm.trans (hdials h))

/-- Each task stays where it is, or goes on to work that is aside. -/
lemma mapTasks {f : Task → Task}
    (hf : ∀ t, (f t).work.socket? ≠ none ∨ (f t).work.dials = true → t.Continues (f t)) :
    Quiet e { e with tasks := e.tasks.map f } := by
  refine of_inherits (fun s => .map fun t _ hs => hf t (.inl ?_))
    (fun _ => .map fun t _ hdials => hf t (.inr hdials)) (.refl _) rfl rfl rfl
  rw [hs]
  nofun

lemma alterTask {f : Task → Task} (hf : ∀ t, (f t).work.socket? = none)
    (hdials : ∀ t, (f t).work.dials = false) (i : TaskId) : Quiet e (e.alterTask i f) := by
  refine of_inherits (fun s => .alter (fun t => ?_) i e.tasks)
    (fun _ => .alter (fun t => ?_) i e.tasks) (.refl _) rfl rfl rfl
  · rw [hf]
    nofun
  · rw [hdials]
    nofun

lemma await (hw : w.socket? = none) (hdials : w.dials = false) (i : TaskId) (wait : Wait) :
    Quiet e (e.await i w wait) :=
  alterTask (fun _ => hw) (fun _ => hdials) i

lemma awaitTime (hw : w.socket? = none) (hdials : w.dials = false) (i : TaskId)
    (delay : Binary64) : Quiet e (e.awaitTime i w delay) := by
  rw [Engine.awaitTime]
  split_ifs
  · exact (alterTask (fun _ => hw) (fun _ => hdials) i).trans (enqueue rfl)
  · have htimer : Quiet e { e with
        schedule := e.schedule.setTimer delay (.ring i e.schedule.nextTimer) } :=
      same rfl (.setTimer delay i) rfl rfl rfl
    exact htimer.trans (alterTask (fun _ => hw) (fun _ => hdials) i)

/-- Tasks join the queue that do not wait for a timer, or are cancelled. -/
lemma wake {q : Task → Bool}
    (hq : ∀ t ∈ e.tasks, q t = true → t.wait.timer? = none ∨ t.cancelled = true) :
    Quiet e (e.wake q) :=
  of_inherits (fun _ => .wake hq) (fun _ => .wake hq) (extends_wake q e) rfl rfl rfl

/-- Tasks join the queue that wait for something else than a timer. -/
lemma wakeWaiting {q : Task → Bool} (wait : Wait) (hwait : wait.timer? = none)
    (hq : ∀ t, q t = true → t.wait = wait) : Quiet e (e.wake q) :=
  wake fun t _ ht => .inl (hq t ht ▸ hwait)

lemma cancel (i : TaskId) : Quiet e (e.cancel i) := by
  have hcancel : Quiet e (e.alterTask i fun t => { t with cancelled := true }) :=
    of_inherits (fun s => .cancel i e.tasks) (fun _ => .cancel i e.tasks) (.refl _) rfl rfl rfl
  refine hcancel.trans (wake fun t ht hi => .inr ?_)
  obtain ⟨t₀, -, rfl⟩ := List.mem_map.1 ht
  split_ifs at hi ⊢ with hid
  · rfl
  · exact absurd (beq_iff_eq.1 (Bool.and_eq_true_iff.1 hi).1) hid

lemma finishTask (i : TaskId) : Quiet e (e.finishTask i) := by
  have hsubset : ∀ t ∈ e.tasks.filter (·.id != i), t ∈ e.tasks :=
    fun t ht => List.mem_of_mem_filter ht
  have hfilter : Quiet e { e with tasks := e.tasks.filter (·.id != i) } :=
    of_inherits (fun s => .of_subset hsubset) (fun _ => .of_subset hsubset) (.refl _) rfl rfl rfl
  exact hfilter.trans (wakeWaiting (.completion i) rfl fun t ht => beq_iff_eq.1 ht)

lemma endCancelled (t : Task) : Quiet e (e.endCancelled t) := by
  rw [Engine.endCancelled]
  split
  · rename_i number _
    have hcall : Quiet e { e with schedule := e.schedule.callOff number } :=
      same rfl (.callOff number) rfl rfl rfl
    exact hcall.trans (finishTask t.id)
  · exact finishTask t.id

/-! ### The connection -/

lemma dropHeartbeat (k : Nat) : Quiet e (e.dropHeartbeat k) := by
  obtain ⟨-, h⟩ | ⟨i, -, h⟩ := dropHeartbeat_cases k e
  · rw [h]
    exact .refl e
  · rw [h]
    exact cancel i

lemma running_dropConnection (k : Nat) (e : Engine) :
    ((e.dropConnection k).listener 0).running = (e.listener 0).running := by
  refine (running_alterListener (fun _ => ?_) k _).trans (dropHeartbeat k).running
  rfl

lemma scheduleReconnect (k : Nat) : Quiet e (e.scheduleReconnect k) := by
  rw [Engine.scheduleReconnect]
  split_ifs
  · exact .refl e
  · refine (alterListener k _ ?_ ?_).trans (spawn k (w := .pause) rfl (by nofun))
    · exact fun _ => rfl
    · exact fun _ _ => ⟨rfl, rfl, rfl⟩

lemma takeFrame (k : Nat) (payload : Payload) : Quiet e (e.takeFrame k payload) := by
  rw [Engine.takeFrame]
  have hcount : Quiet e (e.alterListener k fun l =>
      { l with framesReceived := l.framesReceived + 1 }) :=
    alterListener k _ (fun _ => rfl) fun _ _ => ⟨rfl, rfl, rfl⟩
  split_ifs
  · exact hcount
  · refine (hcount.trans (alterListener k _ ?_ ?_)).trans
      (spawn k (w := .receive payload) rfl (by nofun))
    · exact fun _ => rfl
    · exact fun _ _ => ⟨rfl, rfl, rfl⟩

/-- A pause is over; only a listener that runs begins to connect. -/
lemma reconnect (i : TaskId) : Quiet e (e.reconnect 0 i) := by
  rw [Engine.reconnect]
  have hforget : Quiet e (e.alterListener 0 fun l => { l with reconnect := none }) :=
    alterListener 0 _ (fun _ => rfl) fun _ _ => ⟨rfl, rfl, rfl⟩
  refine Quiet.trans ?_ (finishTask i)
  split_ifs with hrunning
  · have hdial : ∀ e : Engine, Quiet e (e.alterListener 0 fun l =>
        { l with connection := some e.nextTask }) :=
      fun e => alterListener 0 _ (fun _ => rfl) fun _ _ => ⟨rfl, rfl, rfl⟩
    exact (hforget.trans (hdial _)).trans
      (spawn 0 (w := .connect) rfl fun _ => (hdial _).running.trans hrunning)
  · exact hforget

/-! ### Frames -/

lemma finishFrame (k : Nat) (i : TaskId) : Quiet e (e.finishFrame k i) := by
  rw [Engine.finishFrame]
  have hsettle : Quiet e ((e.finishTask i).enqueue (.settled k i)) :=
    (finishTask i).trans (enqueue rfl)
  split_ifs
  · exact hsettle.trans (enqueue rfl)
  · exact hsettle

lemma settled (k : Nat) (i : TaskId) : Quiet e (e.settled k i) :=
  alterListener k _ (fun _ => rfl) fun _ _ => ⟨rfl, rfl, rfl⟩

lemma gathered (i : TaskId) : Quiet e (e.gathered i) := by
  rw [Engine.gathered]
  have hwithout : Quiet e { e with
      tasks := e.tasks.map fun (t : Task) => { t with wait := t.wait.without i } } := by
    refine mapTasks fun t _ => ⟨rfl, rfl, fun hgoing => ⟨hgoing, ?_⟩⟩
    cases t.wait with
    | _ => rfl
  exact hwithout.trans (wakeWaiting (.gathering []) rfl fun t ht => beq_iff_eq.1 ht)

lemma progress (k : Nat) (i : TaskId)
    (handle : Registry → Int → Nat → Pipeline → Pipeline × Progress) :
    Quiet e (e.progress k i handle) := by
  rw [Engine.progress]
  split
  · exact finishTask i
  · rename_i st _
    obtain ⟨r, hr⟩ : ∃ r, r = handle st.registry e.epoch e.micros
        { st.pipeline with network := e.network } := ⟨_, rfl⟩
    have hpipeline : Quiet e (Engine.alterStation k (fun st => { st with pipeline := r.1 })
        { e with network := r.1.network }) := by
      have hnetwork : Quiet e { e with network := r.1.network } := same rfl (.refl _) rfl rfl rfl
      exact hnetwork.trans (alterStation k _ fun _ => rfl)
    rw [← hr]
    dsimp only
    split
    · exact hpipeline.trans (awaitTime (w := .resume _) rfl rfl i _)
    · split
      · exact (hpipeline.trans (finishFrame k i)).trans (same rfl (.refl _) rfl rfl rfl)
      · exact hpipeline.trans (finishFrame k i)

/-! ### Settings -/

lemma keep (k : Nat) (session : Session) : Quiet e (e.keep k session) := by
  have hdisk : Quiet e { e with disk := session.disk, nextSerial := session.nextSerial } :=
    same rfl (.refl _) rfl rfl rfl
  exact hdisk.trans (alterStation k _ fun _ => rfl)

lemma setWebhookUrl (k : Nat) (url : Option String) : Quiet e (e.setWebhookUrl k url) := by
  refine alterStation k _ fun st => ?_
  split
  · rfl
  · rfl

lemma refresh : Quiet e e.refresh.1 := by
  rw [Engine.refresh]
  dsimp only
  split
  · split_ifs
    · exact .refl e
    · split
      · exact keep _ _
      · refine Quiet.trans ?_ (setWebhookUrl _ _)
        exact (keep _ _).trans (same rfl (.refl _) rfl rfl rfl)
  · exact .refl e

/-- The works of frames see the alert texts that an operation sets. -/
lemma operate {α : Type} (k : Nat) (st : Station) (f : Session → Session × α) :
    Quiet e (e.operate k st f).1 := by
  rw [Engine.operate]
  refine (keep k _).trans (mapTasks fun t ht => ?_)
  cases hwork : t.work with
  | resume stage =>
    rw [hwork] at ht
    obtain hs | hdials := ht
    · exact absurd rfl hs
    · cases hdials
  | _ => exact .refl t

/-! ### Stopping -/

lemma endStop (failure : Option Failure) : Quiet e (e.endStop failure) :=
  same rfl (.refl _) rfl rfl rfl

lemma outsideAwaits (wait : Wait) : Quiet e (e.outsideAwaits wait) :=
  (await (w := .outside) rfl rfl outside wait).trans (same rfl (.refl _) rfl rfl rfl)

/-- A listener that does not run may let go of its heartbeat, its socket and its phase. -/
lemma alterStopped (hrunning : (e.listener 0).running = false) (k : Nat)
    (f : Listener → Listener) (hf : ∀ l, (f l).running = l.running) :
    Quiet e (e.alterListener k f) :=
  alterListener k f hf fun h => absurd h (Bool.eq_false_iff.1 hrunning)

lemma leaveSession (hrunning : (e.listener 0).running = false) (k : Nat) :
    Quiet e (e.leaveSession k) := by
  have hfeed : ∀ n, Quiet e { e with feed :=
      { e.feed with sessionsClosed := e.feed.sessionsClosed + n } } :=
    fun n => withFeed rfl fun _ => rfl
  rw [Engine.leaveSession]
  refine ((hfeed _).trans (alterStopped ?_ k _ ?_)).trans (endStop none)
  · exact hrunning
  · exact fun _ => rfl

lemma drain (hrunning : (e.listener 0).running = false) (k : Nat) : Quiet e (e.drain k) := by
  have henqueue : ∀ (ids : List TaskId) (e : Engine),
      Quiet e (ids.foldl (fun e id => e.enqueue (.gathered id)) e) := by
    intro ids
    induction ids with
    | nil => exact fun e => .refl e
    | cons id ids ih => exact fun e => (enqueue rfl).trans (ih _)
  rw [Engine.drain]
  dsimp only
  split_ifs
  · exact leaveSession hrunning k
  · exact ((henqueue _ e).trans (outsideAwaits _)).trans (same rfl (.refl _) rfl rfl rfl)

lemma socketClosed (hrunning : (e.listener 0).running = false) (k : Nat)
    (failure : Option Failure) : Quiet e (e.socketClosed k failure) := by
  rw [Engine.socketClosed.eq_def]
  split
  · exact endStop _
  · have hletGo := alterStopped hrunning k (fun l => { l with socket := none }) fun _ => rfl
    exact hletGo.trans (drain (hletGo.running.trans hrunning) k)

lemma close (socket : Nat) : Quiet e { e with feed := (e.feed.close socket).1 } := by
  refine withFeed (Feed.length_alter _ _ _) fun s =>
    Feed.textsOn_alter (fun _ => ?_) s socket e.feed
  rfl

lemma closeSocket (hrunning : (e.listener 0).running = false) (k : Nat) :
    Quiet e (e.closeSocket k) := by
  rw [Engine.closeSocket.eq_def]
  split
  · exact drain hrunning k
  · rename_i socket _
    dsimp only
    split_ifs
    · refine (close socket).trans (socketClosed ?_ k _)
      exact hrunning
    · exact ((close socket).trans (awaitTime (w := .outside) rfl rfl outside _)).trans
        (same rfl (.refl _) rfl rfl rfl)

lemma closeAndDrain (hrunning : (e.listener 0).running = false) (k : Nat) :
    Quiet e (e.closeAndDrain k) := by
  have hempty := alterStopped hrunning k
    (fun l => { l with reconnect := none, heartbeat := none, connection := none }) fun _ => rfl
  exact hempty.trans (closeSocket (hempty.running.trans hrunning) k)

lemma cancelNext (hrunning : (e.listener 0).running = false) (k : Nat) (rest : List TaskId) :
    Quiet e (e.cancelNext k rest) := by
  induction rest with
  | nil => exact closeAndDrain hrunning k
  | cons i rest ih =>
    rw [Engine.cancelNext]
    split_ifs
    · exact ((cancel i).trans (outsideAwaits _)).trans (same rfl (.refl _) rfl rfl rfl)
    · exact ih

/-! ### The party outside and the user -/

lemma watch (i : TaskId) : Quiet e (e.watch i) := by
  rw [Engine.watch]
  split_ifs
  · exact (finishTask i).trans (enqueue rfl)
  · exact await (w := .vigil) rfl rfl i _

lemma request : Quiet e e.request := by
  have hrequest : Quiet e { e with isRequested := true } := same rfl (.refl _) rfl rfl rfl
  exact hrequest.trans (wakeWaiting .request rfl fun t ht => beq_iff_eq.1 ht)

lemma sleep (delay : Binary64) :
    Quiet e { e.awaitTime outside .outside delay with isAwake := false } :=
  (awaitTime (w := .outside) rfl rfl outside delay).trans (same rfl (.refl _) rfl rfl rfl)

lemma startRefresher (k : Nat) : Quiet e (e.startRefresher k) := by
  have hrefresher : Quiet e { e with refresher := some e.nextTask } :=
    same rfl (.refl _) rfl rfl rfl
  exact hrefresher.trans (spawn k (w := .idle) rfl (by nofun))

lemma arrive (a : Arrival) : Quiet e (e.arrive a) := by
  have hfeed : Quiet e { e with feed := e.feed.arrive a } := by
    refine withFeed (Feed.length_alter _ _ _) fun s => Feed.textsOn_alter (fun _ => ?_) s _ e.feed
    rfl
  exact hfeed.trans (wakeWaiting (.arrival _) rfl fun t ht => beq_iff_eq.1 ht)

end Quiet

end Engine

end FeedWatch
