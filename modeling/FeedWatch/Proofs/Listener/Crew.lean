import FeedWatch.Proofs.Listener.Links

/-!
# Who works for a listener

Every task that is not done has a place: a frame in flight is one that the listener holds on to, the
look at the settings file is the one that was started, and nobody watches for the user's wish to end
(`Work.Fits`).  What the queue says about frames that are done is about tasks that are no more.
`Engine.Crew` says so, and which tasks are cancelled at most.  There is one lemma for each function
of the engine.  Main statement: a turn of a task keeps the crew (`Crew.runTask`).
-/

namespace FeedWatch

/-- The place of a task, by what it does next, when a listener holds on to these frames and the look
at the settings file is task `ρ`.  Sockets close, or fail because the connection is lost. -/
def Work.Fits (ρ : Option TaskId) (events : List TaskId) (i : TaskId) : Work → Prop
  | receive _ | resume _ => i ∈ events ∧ ρ ≠ some i
  | idle | refresh => ρ = some i
  | vigil => False
  | connected a => a.closeFails ≠ some .other ∧ ρ ≠ some i
  | closed failure => failure ≠ some .other ∧ ρ ≠ some i
  | _ => ρ ≠ some i

/-- The task of which a call says that it is done. -/
def Call.told? : Call → Option TaskId
  | settled _ i | gathered i => some i
  | _ => none

variable {ρ : Option TaskId} {events events' : List TaskId} {i j : TaskId} {w : Work}

lemma Work.Fits.mono (h : w.Fits ρ events i) (hevents : i ∈ events → i ∈ events') :
    w.Fits ρ events' i := by
  cases w with
  | receive p => exact ⟨hevents h.1, h.2⟩
  | resume s => exact ⟨hevents h.1, h.2⟩
  | _ => exact h

/-- Only the look at the settings file has the place of that look. -/
lemma Work.Fits.ne (h : w.Fits ρ events i) (hidle : w ≠ .idle) (hrefresh : w ≠ .refresh) :
    ρ ≠ some i := by
  cases w with
  | receive p => exact h.2
  | resume s => exact h.2
  | connected a => exact h.2
  | closed failure => exact h.2
  | idle => exact absurd rfl hidle
  | refresh => exact absurd rfl hrefresh
  | vigil => exact h.elim
  | _ => exact h

namespace Engine

/-- Tasks have their places, those with some numbers are cancelled at most, and what the queue says
to be done is done. -/
structure Crew (ρ : Option TaskId) (C : TaskId → Prop) (e : Engine) : Prop where
  mild : e.feed.ClosesMildly
  fits : ∀ t ∈ e.tasks, t.work.Fits ρ (e.listener 0).events t.id
  cancelled : ∀ t ∈ e.tasks, t.cancelled = true → C t.id
  begun : ∀ r, ρ = some r → r < e.nextTask
  listed : ∀ i ∈ (e.listener 0).events, i < e.nextTask
  told : ∀ c ∈ e.schedule.queue, ∀ i, c.told? = some i → (∀ t ∈ e.tasks, t.id ≠ i) ∧ i < e.nextTask

/-- The heartbeat that a listener holds may be cancelled, or is done. -/
def BeatsIn (C : TaskId → Prop) (e : Engine) : Prop :=
  ∀ j, (e.listener 0).heartbeat = some j → C j ∨ j < e.nextTask ∧ ∀ t ∈ e.tasks, t.id ≠ j

variable {C : TaskId → Prop} {e e' : Engine} {t : Task} {k s : Nat}

lemma BeatsIn.alterListener (h : e.BeatsIn C) (k : Nat) {f : Listener → Listener}
    (hf : ∀ l, (f l).heartbeat = l.heartbeat) : (e.alterListener k f).BeatsIn C := by
  intro j hj
  have hheld : (e.listener 0).heartbeat = some j := by
    obtain hl | hl := Quiet.listener_alterListener k f e
    · rw [← hj, hl]
    · rw [← hj, hl, hf]
  exact h j hheld

lemma BeatsIn.spawn (h : e.BeatsIn C) (k : Nat) (w : Work) : (e.spawn k w).BeatsIn C := by
  intro j hj
  refine (h j hj).imp_right fun ⟨hlt, hdone⟩ => ⟨Nat.lt_succ_of_lt hlt, fun t ht => ?_⟩
  obtain ht | ht := List.mem_append.1 ht
  · exact hdone t ht
  · rw [List.mem_singleton.1 ht]
    exact Nat.ne_of_gt hlt

lemma BeatsIn.takeFrame (h : e.BeatsIn C) (k : Nat) (p : Payload) :
    (e.takeFrame k p).BeatsIn C := by
  have hcount : (e.alterListener k fun l =>
      { l with framesReceived := l.framesReceived + 1 }).BeatsIn C := h.alterListener k fun _ => rfl
  rw [Engine.takeFrame]
  split_ifs
  · exact hcount
  · refine (hcount.alterListener k fun _ => ?_).spawn k _
    rfl

lemma station_alterListener (hstation : ∃ st, e.stations = [st]) (f : Listener → Listener) :
    ∃ st, (e.alterListener 0 f).stations = [st] := by
  obtain ⟨st, hst⟩ := hstation
  rw [alterListener, alterStation, hst]
  exact ⟨_, rfl⟩

lemma exists_mem_of_isLive (h : e.isLive i = true) : ∃ t ∈ e.tasks, t.id = i := by
  obtain ⟨t, ht⟩ := Option.isSome_iff_exists.1 h
  exact ⟨t, mem_of_task? ht, id_of_task? ht⟩

lemma station_spawn (hstation : ∃ st, e.stations = [st]) (k : Nat) (w : Work) :
    ∃ st, (e.spawn k w).stations = [st] := hstation

lemma station_takeFrame (hstation : ∃ st, e.stations = [st]) (p : Payload) :
    ∃ st, (e.takeFrame 0 p).stations = [st] := by
  rw [takeFrame]
  split_ifs
  · exact station_alterListener hstation _
  · exact station_spawn (station_alterListener (station_alterListener hstation _) _) 0 _

namespace Crew

/-- Tasks stay where they are, or end. -/
lemma change (h : Crew ρ C e) (htasks : ∀ t' ∈ e'.tasks, ∃ t ∈ e.tasks, t'.id = t.id ∧
      (∀ events, t.work.Fits ρ events t.id → t'.work.Fits ρ events t.id) ∧
      (t'.cancelled = true → C t'.id))
    (hnext : e'.nextTask = e.nextTask) (hlistener : e'.listener 0 = e.listener 0)
    (hfeed : e'.feed = e.feed)
    (hqueue : ∀ c ∈ e'.schedule.queue, c.told? ≠ none → c ∈ e.schedule.queue) :
    Crew ρ C e' := by
  refine ⟨hfeed ▸ h.mild, fun t' ht' => ?_, fun t' ht' hcancelled => ?_, fun r hr => ?_,
    fun i hi => ?_, fun c hc i hi => ?_⟩
  · obtain ⟨t, ht, hid, hfits, -⟩ := htasks t' ht'
    rw [hid, hlistener]
    exact hfits _ (h.fits t ht)
  · obtain ⟨t, ht, -, -, hC⟩ := htasks t' ht'
    exact hC hcancelled
  · rw [hnext]
    exact h.begun r hr
  · rw [hnext]
    exact h.listed i (hlistener ▸ hi)
  · obtain ⟨hdone, hlt⟩ := h.told c (hqueue c hc (by rw [hi]; nofun)) i hi
    refine ⟨fun t' ht' => ?_, hnext ▸ hlt⟩
    obtain ⟨t, ht, hid, -⟩ := htasks t' ht'
    rw [hid]
    exact hdone t ht

lemma same (h : Crew ρ C e) (htasks : e'.tasks = e.tasks) (hnext : e'.nextTask = e.nextTask)
    (hlistener : e'.listener 0 = e.listener 0) (hfeed : e'.feed = e.feed)
    (hqueue : ∀ c ∈ e'.schedule.queue, c.told? ≠ none → c ∈ e.schedule.queue) :
    Crew ρ C e' := by
  refine h.change (fun t ht => ?_) hnext hlistener hfeed hqueue
  rw [htasks] at ht
  exact ⟨t, ht, rfl, fun _ hfits => hfits, h.cancelled t ht⟩

lemma withFeed (h : Crew ρ C e) {feed : Feed} (hmild : feed.ClosesMildly) :
    Crew ρ C { e with feed } := { h with mild := hmild }

lemma mono {D : TaskId → Prop} (h : Crew ρ C e)
    (hD : ∀ t ∈ e.tasks, t.cancelled = true → C t.id → D t.id) : Crew ρ D e :=
  { h with cancelled := fun t ht hcancelled => hD t ht hcancelled (h.cancelled t ht hcancelled) }

/-- The look at the settings file is over. -/
lemma retire {r : TaskId} (h : Crew (some r) C e) (hdone : ∀ t ∈ e.tasks, t.id ≠ r) :
    Crew none C e := by
  refine { h with fits := fun t ht => ?_, begun := nofun }
  have hfits := h.fits t ht
  have hne := hdone t ht
  cases hwork : t.work with
  | idle =>
    rw [hwork] at hfits
    exact absurd (Option.some.inj hfits).symm hne
  | refresh =>
    rw [hwork] at hfits
    exact absurd (Option.some.inj hfits).symm hne
  | receive p =>
    rw [hwork] at hfits
    exact ⟨hfits.1, nofun⟩
  | resume s =>
    rw [hwork] at hfits
    exact ⟨hfits.1, nofun⟩
  | connected a =>
    rw [hwork] at hfits
    exact ⟨hfits.1, nofun⟩
  | closed failure =>
    rw [hwork] at hfits
    exact ⟨hfits.1, nofun⟩
  | vigil =>
    rw [hwork] at hfits
    exact hfits.elim
  | _ => exact fun hnone : none = some t.id => nomatch hnone

/-! ### Tasks -/

/-- Only calls that tell of nobody's end join the queue. -/
lemma append (h : Crew ρ C e) (calls : List Call) (hcalls : ∀ c ∈ calls, c.told? = none) :
    Crew ρ C { e with schedule := { e.schedule with queue := e.schedule.queue ++ calls } } := by
  refine h.same rfl rfl rfl rfl fun c hc htold => ?_
  exact (List.mem_append.1 hc).resolve_right fun hc => htold (hcalls c hc)

lemma enqueue (h : Crew ρ C e) {c : Call} (hc : c.told? = none) : Crew ρ C (e.enqueue c) :=
  h.append [c] fun c' hc' => by rw [List.mem_singleton.1 hc', hc]

/-- Somebody's end is told who is no more. -/
lemma tell (h : Crew ρ C e) {c : Call} (hc : c.told? = some i) (hdone : ∀ t ∈ e.tasks, t.id ≠ i)
    (hlt : i < e.nextTask) : Crew ρ C (e.enqueue c) := by
  refine { h with told := fun c' hc' j hj => ?_ }
  obtain hc' | hc' := List.mem_append.1 hc'
  · exact h.told c' hc' j hj
  · rw [List.mem_singleton.1 hc', hc] at hj
    cases hj
    exact ⟨hdone, hlt⟩

lemma mapTasks (h : Crew ρ C e) {f : Task → Task} (hid : ∀ t, (f t).id = t.id)
    (hfits : ∀ t events, t.work.Fits ρ events t.id → (f t).work.Fits ρ events t.id)
    (hcancelled : ∀ t ∈ e.tasks, (f t).cancelled = true → C t.id) :
    Crew ρ C { e with tasks := e.tasks.map f } := by
  refine h.change (fun t' ht' => ?_) rfl rfl rfl fun _ hc _ => hc
  obtain ⟨t, ht, rfl⟩ := List.mem_map.1 ht'
  exact ⟨t, ht, hid t, hfits t, fun hf => (hid t).symm ▸ hcancelled t ht hf⟩

/-- A task goes on to what has its place. -/
lemma alterTask (h : Crew ρ C e) {f : Task → Task} (hid : ∀ t, (f t).id = t.id)
    (hwork : ∀ t, (f t).work = w) (hcancelled : ∀ t, (f t).cancelled = t.cancelled)
    (hw : w.Fits ρ (e.listener 0).events i) : Crew ρ C (e.alterTask i f) := by
  have htasks : ∀ t' ∈ (e.alterTask i f).tasks, ∃ t ∈ e.tasks, t'.id = t.id ∧
      t'.cancelled = t.cancelled ∧ (t' = t ∨ t'.id = i ∧ t'.work = w) := by
    intro t' ht'
    obtain ⟨ht, -⟩ | ⟨t, ht, rfl, rfl⟩ := mem_alterTask ht'
    · exact ⟨t', ht, rfl, rfl, .inl rfl⟩
    · exact ⟨t, ht, hid t, hcancelled t, .inr ⟨hid t, hwork t⟩⟩
  refine { h with
    fits := fun t' ht' => ?_, cancelled := fun t' ht' hf => ?_
    told := fun c hc j hj => (h.told c hc j hj).imp_left fun hdone t' ht' => ?_ }
  · obtain ⟨t, ht, -, -, rfl | ⟨hi, hw'⟩⟩ := htasks t' ht'
    · exact h.fits t' ht
    · rw [hi, hw']
      exact hw
  · obtain ⟨t, ht, hid, hcancelled, -⟩ := htasks t' ht'
    exact hid ▸ h.cancelled t ht (hcancelled ▸ hf)
  · obtain ⟨t, ht, hid, -⟩ := htasks t' ht'
    exact hid ▸ hdone t ht

lemma await (h : Crew ρ C e) (hw : w.Fits ρ (e.listener 0).events i) (wait : Wait) :
    Crew ρ C (e.await i w wait) :=
  h.alterTask (fun _ => rfl) (fun _ => rfl) (fun _ => rfl) hw

lemma awaitTime (h : Crew ρ C e) (hw : w.Fits ρ (e.listener 0).events i) (delay : Binary64) :
    Crew ρ C (e.awaitTime i w delay) := by
  rw [Engine.awaitTime]
  split_ifs
  · refine Crew.enqueue (h.alterTask (f := fun t => { t with work := w, wait := .turn })
      (fun _ => rfl) (fun _ => rfl) (fun _ => rfl) hw) rfl
  · refine Crew.same (h.alterTask (f := fun t => { t with
      work := w, wait := .timer e.schedule.nextTimer, timer := some e.schedule.nextTimer })
      (fun _ => rfl) (fun _ => rfl) (fun _ => rfl) hw) rfl rfl rfl rfl fun _ hc _ => hc

/-- A new task has its place; if it is that of a frame, the listener may hold on to it already. -/
lemma spawnFor (h : Crew ρ C e) (htasks : e'.tasks = e.tasks) (hschedule : e'.schedule = e.schedule)
    (hnext : e'.nextTask = e.nextTask) (hfeed : e'.feed = e.feed)
    (hold : ∀ i ∈ (e.listener 0).events, i ∈ (e'.listener 0).events)
    (hnew : ∀ i ∈ (e'.listener 0).events, i ∈ (e.listener 0).events ∨ i = e.nextTask)
    (hw : w.Fits ρ (e'.listener 0).events e.nextTask) (k : Nat) : Crew ρ C (e'.spawn k w) := by
  have hmem : ∀ t ∈ (e'.spawn k w).tasks,
      t ∈ e.tasks ∨ t = ⟨e.nextTask, k, w, .turn, none, false⟩ := by
    intro t ht
    rw [Engine.spawn, htasks, hnext] at ht
    exact (List.mem_append.1 ht).imp_right List.mem_singleton.1
  have hlater : ∀ {i}, i < e.nextTask → i < (e'.spawn k w).nextTask := by
    intro i hi
    show i < e'.nextTask + 1
    rw [hnext]
    exact Nat.lt_succ_of_lt hi
  refine ⟨hfeed ▸ h.mild, fun t ht => ?_, fun t ht hcancelled => ?_, fun r hr => hlater (h.begun r hr),
    fun i hi => ?_, fun c hc i hi => ?_⟩
  · obtain ht | rfl := hmem t ht
    · exact (h.fits t ht).mono (hold t.id)
    · exact hw
  · obtain ht | rfl := hmem t ht
    · exact h.cancelled t ht hcancelled
    · cases hcancelled
  · obtain hi | rfl := hnew i hi
    · exact hlater (h.listed i hi)
    · show e.nextTask < e'.nextTask + 1
      rw [hnext]
      exact Nat.lt_succ_self _
  · rw [Engine.spawn, hschedule] at hc
    obtain hc | hc := List.mem_append.1 hc
    · obtain ⟨hdone, hlt⟩ := h.told c hc i hi
      refine ⟨fun t ht => ?_, hlater hlt⟩
      obtain ht | rfl := hmem t ht
      · exact hdone t ht
      · exact Nat.ne_of_gt hlt
    · rw [List.mem_singleton.1 hc] at hi
      cases hi

lemma spawn (h : Crew ρ C e) (hw : w.Fits ρ (e.listener 0).events e.nextTask) (k : Nat) :
    Crew ρ C (e.spawn k w) :=
  h.spawnFor rfl rfl rfl rfl (fun _ => id) (fun _ => .inl) hw k

lemma ne_next (h : Crew ρ C e) : ρ ≠ some e.nextTask :=
  fun hρ => Nat.lt_irrefl _ (h.begun _ hρ)

lemma wake (h : Crew ρ C e) (q : Task → Bool) : Crew ρ C (e.wake q) := by
  refine h.change (fun t' ht' => ?_) rfl rfl rfl fun c hc htold => ?_
  · obtain ⟨t, ht, hid, hwork, hcancelled, -⟩ := mem_wake ht'
    exact ⟨t, ht, hid, fun _ hfits => hwork ▸ hfits,
      fun hf => hid ▸ h.cancelled t ht (hcancelled ▸ hf)⟩
  · refine (List.mem_append.1 hc).resolve_right fun hc => htold ?_
    obtain ⟨t, -, rfl⟩ := List.mem_map.1 hc
    rfl

/-- A task is cancelled that may be. -/
lemma cancel (h : Crew ρ C e) (hC : ∀ t ∈ e.tasks, t.id = i → C i) : Crew ρ C (e.cancel i) := by
  refine Crew.wake (h.mapTasks (fun t => ?_) (fun t events hfits => ?_) fun t ht hf => ?_) _
  · split_ifs
    · rfl
    · rfl
  · split_ifs
    · exact hfits
    · exact hfits
  · split_ifs at hf with hid
    · rw [hid]
      exact hC t ht hid
    · exact h.cancelled t ht hf

lemma finishTask (h : Crew ρ C e) (i : TaskId) : Crew ρ C (e.finishTask i) := by
  refine Crew.wake (e := { e with tasks := e.tasks.filter (·.id != i) }) ?_ _
  refine h.change (fun t ht => ?_) rfl rfl rfl fun _ hc _ => hc
  have hmem := List.mem_of_mem_filter ht
  exact ⟨t, hmem, rfl, fun _ hfits => hfits, h.cancelled t hmem⟩

lemma endCancelled (h : Crew ρ C e) (t : Task) : Crew ρ C (e.endCancelled t) := by
  rw [Engine.endCancelled]
  cases t.timer with
  | none => exact h.finishTask t.id
  | some n =>
    have hcall : (e.schedule.callOff n).queue = e.schedule.queue := by
      rw [Schedule.callOff]
      split_ifs
      · rfl
      · rfl
    exact Crew.finishTask (e := { e with schedule := e.schedule.callOff n })
      (h.same rfl rfl rfl rfl fun _ hc _ => hcall ▸ hc) t.id

/-! ### The listener -/

/-- A listener that holds on to the frames it held on to. -/
lemma alterListener (h : Crew ρ C e) (k : Nat) {f : Listener → Listener}
    (hf : ∀ l, (f l).events = l.events) : Crew ρ C (e.alterListener k f) := by
  have hevents : ((e.alterListener k f).listener 0).events = (e.listener 0).events := by
    obtain hl | hl := Quiet.listener_alterListener k f e
    · rw [hl]
    · rw [hl, hf]
  refine { h with fits := fun t ht => ?_, listed := ?_ }
  · rw [hevents]
    exact h.fits t ht
  · rw [hevents]
    exact h.listed

lemma alterStation (h : Crew ρ C e) (k : Nat) {f : Station → Station}
    (hf : ∀ st, (f st).listener = st.listener) : Crew ρ C (e.alterStation k f) := by
  refine h.same rfl rfl ?_ rfl fun _ hc _ => hc
  obtain hl | ⟨st, hst, hl⟩ := Quiet.listener_alterStation k f e
  · exact hl
  · rw [hl, hf, listener, hst]
    rfl

/-! ### The connection -/

lemma scheduleReconnect (h : Crew ρ C e) (k : Nat) : Crew ρ C (e.scheduleReconnect k) := by
  rw [Engine.scheduleReconnect]
  split_ifs
  · exact h
  · refine (h.alterListener k fun _ => ?_).spawn (w := .pause) h.ne_next k
    rfl

/-- With the connection, the heartbeat is lost. -/
lemma dropConnection (h : Crew ρ C e) (hbeat : e.BeatsIn C) : Crew ρ C (e.dropConnection 0) := by
  refine Crew.alterListener ?_ 0 fun _ => rfl
  obtain ⟨-, hdrop⟩ | ⟨i, hheld, hdrop⟩ := dropHeartbeat_cases 0 e
  · rwa [hdrop]
  · rw [hdrop]
    refine h.cancel fun t ht hid => ?_
    exact (hbeat i hheld).resolve_right fun hdone => hdone.2 t ht hid

lemma disconnected (h : Crew ρ C e) (hbeat : e.BeatsIn C) : Crew ρ C (e.disconnected 0) := by
  rw [disconnected_eq]
  split_ifs
  · exact (h.dropConnection hbeat).scheduleReconnect 0
  · exact h.dropConnection hbeat

lemma closed (h : Crew ρ C e) (hbeat : e.BeatsIn C) (i : TaskId) (failure : Option Failure) :
    Crew ρ C (e.closed 0 i failure) := by
  rw [Engine.closed.eq_def]
  split
  · exact h.finishTask i
  · exact (h.disconnected hbeat).finishTask i

lemma endConnection (h : Crew ρ C e) (hρ : ρ ≠ some i)
    (hbeat : e.BeatsIn C) (socket : Nat) : Crew ρ C (e.endConnection 0 i socket) := by
  have hclose : Crew ρ C { e with feed := (e.feed.close socket).1 } :=
    h.withFeed (h.mild.alter (f := fun s => { s with closings := s.closings + 1 }) (fun _ => rfl) _)
  rw [Engine.endConnection]
  dsimp only
  split_ifs
  · exact hclose.closed hbeat i _
  · exact hclose.awaitTime (w := .closed _) ⟨h.mild.close socket, hρ⟩ _

/-- The task of a frame begins, and the listener holds on to it. -/
lemma spawnFrame (h : Crew ρ C e) (hstation : ∃ st, e.stations = [st]) (p : Payload) :
    Crew ρ C ((e.alterListener 0 fun l => { l with events := l.events ++ [e.nextTask] }).spawn 0
      (.receive p)) := by
  have hlistener := listener_of_station hstation fun l =>
    { l with events := l.events ++ [e.nextTask] }
  have hevents : ((e.alterListener 0 fun l => { l with
      events := l.events ++ [e.nextTask] }).listener 0).events =
      (e.listener 0).events ++ [e.nextTask] := congrArg Listener.events hlistener
  have htasks : (e.alterListener 0 fun l => { l with
      events := l.events ++ [e.nextTask] }).tasks = e.tasks := rfl
  refine h.spawnFor htasks rfl rfl rfl (fun i hi => ?_) (fun i hi => ?_) ?_ 0
  · rw [hevents]
    exact List.mem_append_left _ hi
  · rw [hevents] at hi
    exact (List.mem_append.1 hi).imp_right List.mem_singleton.1
  · rw [hevents]
    exact ⟨List.mem_append_right _ List.mem_cons_self, h.ne_next⟩

lemma takeFrame (h : Crew ρ C e) (hstation : ∃ st, e.stations = [st]) (p : Payload) :
    Crew ρ C (e.takeFrame 0 p) := by
  have hcount : Crew ρ C (e.alterListener 0 fun l =>
      { l with framesReceived := l.framesReceived + 1 }) := h.alterListener 0 fun _ => rfl
  rw [Engine.takeFrame]
  split_ifs
  · exact hcount
  · exact hcount.spawnFrame (station_alterListener hstation _) p

lemma readFrom (h : Crew ρ C e) (hstation : ∃ st, e.stations = [st]) (hρ : ρ ≠ some i)
    (hbeat : e.BeatsIn C) (socket fuel : Nat) : Crew ρ C (e.readFrom 0 i socket fuel) := by
  induction fuel generalizing e with
  | zero => exact h.await (w := .read socket) hρ _
  | succ fuel ih =>
    rw [Engine.readFrom]
    cases hnext : e.feed.next? socket with
    | none => exact h.await (w := .read socket) hρ _
    | some r =>
      obtain ⟨a, feed⟩ := r
      have hread : Crew ρ C { e with feed } := h.withFeed (h.mild.next? hnext)
      have hbeat' : BeatsIn C { e with feed } := hbeat
      cases a with
      | message m =>
        cases m with
        | frame p =>
          refine ih (hread.takeFrame hstation p) ?_ (hbeat'.takeFrame 0 p)
          exact station_takeFrame (e := { e with feed }) hstation p
        | error => exact hread.endConnection hρ hbeat' socket
        | control => exact ih hread hstation hbeat'
      | ended => exact hread.endConnection hρ hbeat' socket
      | failed f => exact hread.endConnection hρ hbeat' socket

/-- The heartbeat that begins may be cancelled. -/
lemma connected (h : Crew ρ C e) (hstation : ∃ st, e.stations = [st]) (hρ : ρ ≠ some i)
    (hbeat : e.BeatsIn C) (hnew : C e.nextTask) {a : Attempt} (ha : a.closeFails ≠ some .other) :
    Crew ρ C (e.connected 0 i a) := by
  rw [Engine.connected]
  split
  · exact (h.disconnected hbeat).finishTask i
  · have haccept : Crew ρ C { e with feed := e.feed.accept a } := h.withFeed (h.mild.accept ha)
    have hlistener := listener_of_station (e := { e with feed := e.feed.accept a }) hstation
      fun l => { l with
        socket := some e.feed.sockets.length, phase := .connected, heartbeat := some e.nextTask }
    have hlisten : Crew ρ C (Engine.alterListener 0 (fun l => { l with
        socket := some e.feed.sockets.length, phase := .connected, heartbeat := some e.nextTask })
        { e with feed := e.feed.accept a }) := haccept.alterListener 0 fun _ => rfl
    refine (hlisten.spawn (w := .rest _) h.ne_next 0).readFrom ?_ hρ (BeatsIn.spawn ?_ 0 _) _ _
    · exact station_spawn
        (station_alterListener (e := { e with feed := e.feed.accept a }) hstation _) 0 _
    · intro j hj
      rw [hlistener] at hj
      obtain rfl : e.nextTask = j := Option.some.inj hj
      exact .inl hnew

lemma connect (h : Crew ρ C e) (hstation : ∃ st, e.stations = [st]) (hρ : ρ ≠ some i)
    (hbeat : e.BeatsIn C) (hnew : C e.nextTask) : Crew ρ C (e.connect 0 i) := by
  obtain ⟨hmild, ha⟩ := h.mild.attempt e.timing.feedUrl
  have hattempt : Crew ρ C { e.alterListener 0 fun l => { l with
      phase := .connecting, connectAttempts := l.connectAttempts + 1, hasSession := true } with
      feed := (e.feed.attempt e.timing.feedUrl).1 } := by
    refine Crew.withFeed (h.alterListener 0 fun _ => ?_) hmild
    rfl
  rw [Engine.connect]
  dsimp only
  split_ifs
  · have hstation' : ∃ st, (e.alterListener 0 fun l => { l with
        phase := .connecting, connectAttempts := l.connectAttempts + 1
        hasSession := true }).stations = [st] := station_alterListener hstation _
    have hbeat' : BeatsIn C (e.alterListener 0 fun l => { l with
        phase := .connecting, connectAttempts := l.connectAttempts + 1, hasSession := true }) :=
      hbeat.alterListener 0 fun _ => rfl
    exact hattempt.connected hstation' hρ hbeat' hnew ha
  · exact hattempt.awaitTime (w := .connected _) ⟨ha, hρ⟩ _

/-! ### Heartbeats and pauses -/

lemma sent (h : Crew ρ C e) (hρ : ρ ≠ some i) (socket : Nat)
    (failure : Option Failure) : Crew ρ C (e.sent i socket failure) := by
  rw [Engine.sent]
  split_ifs
  · exact h.finishTask i
  · exact h.awaitTime (w := .beat socket) hρ _

lemma beat (h : Crew ρ C e) (hρ : ρ ≠ some i) (socket : Nat) :
    Crew ρ C (e.beat i socket) := by
  have hsend : Crew ρ C { e with feed := (e.feed.send socket heartbeat).1 } := by
    refine h.withFeed ?_
    rw [Feed.send]
    split
    · exact h.mild
    · exact h.mild.alter (f := fun s => { s with sent := s.sent ++ [heartbeat] }) (fun _ => rfl) _
  rw [Engine.beat]
  dsimp only
  split_ifs
  · exact hsend.sent hρ socket _
  · exact hsend.awaitTime (w := .sent socket _) hρ _

lemma reconnect (h : Crew ρ C e) (i : TaskId) : Crew ρ C (e.reconnect 0 i) := by
  have hforget : Crew ρ C (e.alterListener 0 fun l => { l with reconnect := none }) :=
    h.alterListener 0 fun _ => rfl
  rw [Engine.reconnect]
  refine Crew.finishTask ?_ i
  split_ifs
  · refine Crew.spawn (w := .connect) (hforget.alterListener 0 fun _ => ?_) h.ne_next 0
    rfl
  · exact hforget

/-! ### Frames -/

/-- The task of a frame is done, and its end is told. -/
lemma finishFrame (h : Crew ρ C e) (hlt : i < e.nextTask) (k : Nat) :
    Crew ρ C (e.finishFrame k i) := by
  have hdone : ∀ t ∈ (e.finishTask i).tasks, t.id ≠ i := by
    intro t ht
    obtain ⟨-, -, -, -, hne⟩ := mem_finishTask ht
    exact hne
  have hsettled : Crew ρ C ((e.finishTask i).enqueue (.settled k i)) :=
    (h.finishTask i).tell rfl hdone hlt
  rw [Engine.finishFrame]
  split_ifs
  · exact hsettled.tell rfl hdone hlt
  · exact hsettled

/-- The listener lets go of a frame that is done. -/
lemma settled (h : Crew ρ C e) (hdone : ∀ t ∈ e.tasks, t.id ≠ i) (k : Nat) :
    Crew ρ C (e.settled k i) := by
  rw [Engine.settled]
  obtain hl | hl := Quiet.listener_alterListener k (fun l =>
    { l with events := l.events.erase i }) e
  · exact h.same rfl rfl hl rfl fun _ hc _ => hc
  · refine { h with fits := fun t ht => ?_, listed := fun j hj => ?_ }
    · rw [hl]
      exact (h.fits t ht).mono (List.mem_erase_of_ne (hdone t ht)).2
    · rw [hl] at hj
      exact h.listed j (List.mem_of_mem_erase hj)

lemma gathered (h : Crew ρ C e) (i : TaskId) : Crew ρ C (e.gathered i) := by
  have hwithout : Crew ρ C { e with
      tasks := e.tasks.map fun (t : Task) => { t with wait := t.wait.without i } } := by
    exact h.mapTasks (fun _ => rfl) (fun _ _ hfits => hfits) fun t ht => h.cancelled t ht
  exact hwithout.wake _

lemma progress (h : Crew ρ C e) (hlt : i < e.nextTask)
    (hevents : i ∈ (e.listener 0).events) (hρ : ρ ≠ some i) (k : Nat)
    (handle : Registry → Int → Nat → Pipeline → Pipeline × Progress) :
    Crew ρ C (e.progress k i handle) := by
  rw [Engine.progress]
  split
  · exact h.finishTask i
  · generalize handle _ _ _ _ = r
    obtain ⟨p, progress⟩ := r
    have hnetwork : Crew ρ C { e with network := p.network } :=
      h.same rfl rfl rfl rfl fun _ hc _ => hc
    have hlistener : (Engine.alterStation k (fun s => { s with pipeline := p })
        { e with network := p.network }).listener 0 = e.listener 0 := by
      obtain hl | ⟨st, hst, hl⟩ := Quiet.listener_alterStation k
        (fun s => { s with pipeline := p }) { e with network := p.network }
      · exact hl
      · rw [hl, listener, show e.stations[0]? = some st from hst]
        rfl
    have hhandle : Crew ρ C (Engine.alterStation k (fun s => { s with pipeline := p })
        { e with network := p.network }) := hnetwork.alterStation k fun _ => rfl
    cases progress with
    | wait delay stage =>
      refine hhandle.awaitTime (w := .resume stage) ?_ _
      rw [hlistener]
      exact ⟨hevents, hρ⟩
    | done handled =>
      have hdone := hhandle.finishFrame (i := i) hlt k
      dsimp only
      split
      · exact hdone.same rfl rfl rfl rfl fun _ hc _ => hc
      · exact hdone

/-! ### Settings -/

lemma keep (h : Crew ρ C e) (k : Nat) (session : Session) : Crew ρ C (e.keep k session) := by
  have hdisk : Crew ρ C { e with disk := session.disk, nextSerial := session.nextSerial } :=
    h.same rfl rfl rfl rfl fun _ hc _ => hc
  exact hdisk.alterStation k fun _ => rfl

lemma refresh (h : Crew ρ C e) : Crew ρ C e.refresh.1 := by
  rw [Engine.refresh]
  dsimp only
  split
  · split_ifs
    · exact h
    · split
      · exact h.keep _ _
      · rename_i k _ _ _ _ _ session _
        have hstamp : Crew ρ C { e.keep k session with stamp := e.store.stamp? e.disk } :=
          (h.keep k session).same rfl rfl rfl rfl fun _ hc _ => hc
        refine hstamp.alterStation k fun st => ?_
        split
        · rfl
        · rfl
  · exact h

lemma operate {β : Type} (h : Crew ρ C e) (k : Nat) (st : Station) (f : Session → Session × β) :
    Crew ρ C (e.operate k st f).1 := by
  have hkeep := h.keep k (f (e.session st)).1
  rw [Engine.operate]
  -- the alert texts that a frame has in hand do not tell its place
  refine hkeep.mapTasks (fun t => ?_) (fun t events hfits => ?_) fun t ht hf => ?_
  · split
    · rfl
    · rfl
  · split
    next s hwork =>
      rw [hwork] at hfits
      exact hfits
    next => exact hfits
  · split at hf
    · exact hkeep.cancelled t ht hf
    · exact hkeep.cancelled t ht hf

/-! ### The party outside -/

lemma outsideAwaits (h : Crew ρ C e) (hρ : ρ ≠ some outside) (wait : Wait) :
    Crew ρ C (e.outsideAwaits wait) :=
  Crew.same (h.await (w := .outside) (i := outside) hρ wait) rfl rfl rfl rfl fun _ hc _ => hc

lemma leaveSession (h : Crew ρ C e) : Crew ρ C (e.leaveSession 0) := by
  have hfeed : ∀ n, Crew ρ C { e with feed := { e.feed with sessionsClosed := n } } :=
    fun n => h.withFeed ⟨h.mild.sockets, h.mild.script⟩
  have hlisten : ∀ n, Crew ρ C (Engine.alterListener 0
      (fun l => { l with hasSession := false, phase := .disconnected })
      { e with feed := { e.feed with sessionsClosed := n } }) :=
    fun n => (hfeed n).alterListener 0 fun _ => rfl
  rw [Engine.leaveSession]
  exact (hlisten _).same rfl rfl rfl rfl fun _ hc _ => hc

/-- Frames in flight are waited for; the end of those that are done is told. -/
lemma drain (h : Crew ρ C e) (hρ : ρ ≠ some outside) : Crew ρ C (e.drain 0) := by
  have hfold : ∀ (ids : List TaskId) (e : Engine), Crew ρ C e →
      (∀ i ∈ ids, i < e.nextTask ∧ ∀ t ∈ e.tasks, t.id ≠ i) →
      Crew ρ C (ids.foldl (fun e i => e.enqueue (.gathered i)) e) := by
    intro ids
    induction ids with
    | nil => exact fun _ h _ => h
    | cons i ids ih =>
      intro e h hids
      obtain ⟨hlt, hdone⟩ := hids i List.mem_cons_self
      exact ih _ (h.tell rfl hdone hlt) fun j hj => hids j (List.mem_cons_of_mem _ hj)
  rw [Engine.drain]
  dsimp only
  split_ifs
  · exact h.leaveSession
  · have hgathered := hfold ((e.listener 0).events.filter fun i => !e.isLive i) e h fun i hi => by
      obtain ⟨hevents, hlive⟩ := List.mem_filter.1 hi
      refine ⟨h.listed i hevents, fun t ht hid => ?_⟩
      rw [← hid, isLive_of_mem ht] at hlive
      cases hlive
    exact (hgathered.outsideAwaits hρ _).same rfl rfl rfl rfl fun _ hc _ => hc

lemma socketClosed (h : Crew ρ C e) (hρ : ρ ≠ some outside) (failure : Option Failure) :
    Crew ρ C (e.socketClosed 0 failure) := by
  rw [Engine.socketClosed.eq_def]
  split
  · exact h.same rfl rfl rfl rfl fun _ hc _ => hc
  · refine Crew.drain (h.alterListener 0 fun _ => ?_) hρ
    rfl

lemma closeSocket (h : Crew ρ C e) (hρ : ρ ≠ some outside) :
    Crew ρ C (e.closeSocket 0) := by
  rw [Engine.closeSocket.eq_def]
  split
  · exact h.drain hρ
  · rename_i socket _
    have hclose : Crew ρ C { e with feed := (e.feed.close socket).1 } :=
      h.withFeed (h.mild.alter (f := fun s => { s with closings := s.closings + 1 }) (fun _ => rfl) _)
    dsimp only
    split_ifs
    · exact hclose.socketClosed hρ _
    · exact Crew.same (hclose.awaitTime (w := .outside) (i := outside) hρ _) rfl rfl rfl rfl
        fun _ hc _ => hc

lemma closeAndDrain (h : Crew ρ C e) (hρ : ρ ≠ some outside) :
    Crew ρ C (e.closeAndDrain 0) := by
  refine Crew.closeSocket (h.alterListener 0 fun _ => ?_) hρ
  rfl

/-- Tasks are cancelled that may be. -/
lemma cancelNext (h : Crew ρ C e) (hρ : ρ ≠ some outside) {ids : List TaskId}
    (hids : ∀ i ∈ ids, C i) : Crew ρ C (e.cancelNext 0 ids) := by
  induction ids with
  | nil => exact h.closeAndDrain hρ
  | cons i ids ih =>
    rw [Engine.cancelNext]
    split_ifs
    · have hcancel := h.cancel (i := i) fun _ _ _ => hids i List.mem_cons_self
      exact (hcancel.outsideAwaits hρ _).same rfl rfl rfl rfl fun _ hc _ => hc
    · exact ih fun j hj => hids j (List.mem_cons_of_mem _ hj)

/-! ### Turns -/

/-- A turn of a task other than the party outside keeps the crew, if the heartbeat may be cancelled
when a connection is lost. -/
lemma runTask {fifo : Prop} (h : Crew ρ C e) (hready : Ready fifo t e)
    (hwork : t.cancelled = false → t.work ≠ .outside)
    (hbeat : t.cancelled = false → (∃ l, t.work.duty = .link l) → e.BeatsIn C)
    (hnew : t.cancelled = false → t.work.dials = true → C e.nextTask) : Crew ρ C (e.runTask t) := by
  have hmem := mem_of_task? hready.task
  have hstation := hready.orderly.station
  have hlt : t.id < e.nextTask := hready.orderly.below t hmem
  have hfits := h.fits t hmem
  rw [Engine.runTask]
  split_ifs with hcancelled
  · have hend := h.endCancelled t
    dsimp only
    split
    · exact hend.enqueue rfl
    · exact hend
  · have hgoing := Bool.eq_false_iff.2 hcancelled
    rw [hready.orderly.home t hmem]
    cases hw : t.work with
    | outside => exact absurd hw (hwork hgoing)
    | connect =>
      rw [hw] at hfits
      exact h.connect hstation hfits (hbeat hgoing ⟨.connecting, by rw [hw]; rfl⟩)
        (hnew hgoing (by rw [hw]; rfl))
    | connected a =>
      rw [hw] at hfits
      exact h.connected hstation hfits.2 (hbeat hgoing ⟨.shaking, by rw [hw]; rfl⟩)
        (hnew hgoing (by rw [hw]; rfl)) hfits.1
    | read socket =>
      rw [hw] at hfits
      exact h.readFrom hstation hfits (hbeat hgoing ⟨.reading socket, by rw [hw]; rfl⟩) socket _
    | closed failure => exact h.closed (hbeat hgoing ⟨.closing, by rw [hw]; rfl⟩) _ failure
    | rest socket =>
      rw [hw] at hfits
      exact h.awaitTime (w := .beat socket) hfits _
    | beat socket =>
      rw [hw] at hfits
      exact h.beat hfits socket
    | sent socket failure =>
      rw [hw] at hfits
      exact h.sent hfits socket failure
    | pause =>
      rw [hw] at hfits
      dsimp only
      split
      · exact h.awaitTime (w := .reconnect) hfits _
      · exact h.finishTask _
    | reconnect => exact h.reconnect _
    | receive p =>
      rw [hw] at hfits
      exact h.progress hlt hfits.1 hfits.2 0 _
    | resume stage =>
      rw [hw] at hfits
      exact h.progress hlt hfits.1 hfits.2 0 _
    | idle =>
      rw [hw] at hfits
      exact h.awaitTime (w := .refresh) hfits _
    | refresh =>
      rw [hw] at hfits
      exact h.refresh.awaitTime (w := .refresh) hfits _
    | vigil =>
      rw [hw] at hfits
      exact hfits.elim

end Crew

end Engine

end FeedWatch
