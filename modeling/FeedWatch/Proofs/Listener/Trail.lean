import FeedWatch.Proofs.Engine.Touches
import FeedWatch.Proofs.Listener.Crew
import FeedWatch.Proofs.Listener.Lasting
import FeedWatch.Proofs.Watcher.Ground

/-!
# Cancelled tasks end in time

A task that is cancelled takes its turn to end.  When a connection is lost, the heartbeat is
cancelled and let go of, so nobody waits for its end; but its turn comes before that of the pause
that begins then, and whoever stops the listener waits for the end of that pause.  So while the
listener runs, a cancelled task stands in the queue before a pause, and while it is stopped, before
the party outside goes on (`Engine.Trail`).  Main statements: a turn keeps it so (`Trail.turn`), and
so does the beginning of stopping (`Trail.stopListening`).
-/

namespace FeedWatch

namespace Engine

/-- The turn of one task stands in the queue, and behind it that of another one. -/
def Precedes (i j : TaskId) (e : Engine) : Prop := [i, j].Sublist (turnsOf e.schedule.queue)

/-- The turn of a task stands in the queue, and that of the party outside, if it does, behind it. -/
def Ahead (i : TaskId) (e : Engine) : Prop :=
  i ∈ turnsOf e.schedule.queue ∧ (outside ∈ turnsOf e.schedule.queue → e.Precedes i outside)

/-- No task is cancelled. -/
def Uncut (e : Engine) : Prop := ∀ t ∈ e.tasks, t.cancelled = false

/-- A cancelled task, unless it has its turn, stands in the queue: before a pause, if the listener
runs, and else before the party outside, which is about to cancel others. -/
structure Trail (busy : Option TaskId) (e : Engine) : Prop where
  running : (e.listener 0).running = true → ∀ t ∈ e.tasks, t.cancelled = true → busy ≠ some t.id →
    ∃ p ∈ e.tasks, p.cancelled = false ∧ p.work = .pause ∧ e.Precedes t.id p.id
  stopped : (e.listener 0).running = false → ∀ t ∈ e.tasks, t.cancelled = true →
    busy ≠ some t.id → (∃ rest, e.stopping = some (.cancelling rest)) ∧ e.Ahead t.id

variable {e e' : Engine} {i j k : TaskId} {t : Task} {w : Work} {s : Nat} {l : Link}
variable {busy ρ : Option TaskId} {schedule : Schedule} {fifo : Prop}

/-! ## The queue -/

lemma Precedes.mono (h : e.Precedes i j)
    (hqueue : turnsOf e.schedule.queue <+: turnsOf e'.schedule.queue) : e'.Precedes i j :=
  h.trans hqueue.sublist

/-- The turn of another task is taken. -/
lemma Precedes.tail (h : e.Precedes i j) (hne : i ≠ k)
    (hqueue : e.schedule.queue = .turn k :: schedule.queue) :
    Precedes i j { e with schedule } := by
  have hturns : turnsOf e.schedule.queue = k :: turnsOf schedule.queue := by
    rw [hqueue]
    rfl
  rw [Precedes, hturns] at h
  obtain h | ⟨r, hr, -⟩ := List.sublist_cons_iff.1 h
  · exact h
  · exact absurd (List.cons.inj hr).1 hne

/-- Calls join the end of the queue. -/
lemma Ahead.mono (h : e.Ahead i)
    (hqueue : turnsOf e.schedule.queue <+: turnsOf e'.schedule.queue) : e'.Ahead i := by
  obtain ⟨hmem, hprecedes⟩ := h
  refine ⟨hqueue.subset hmem, fun houtside => ?_⟩
  -- the party outside stood behind the task already, or has joined the queue at its end
  obtain ⟨more, hmore⟩ := hqueue
  rw [← hmore] at houtside
  obtain houtside | houtside := List.mem_append.1 houtside
  · exact (hprecedes houtside).mono ⟨more, hmore⟩
  · rw [Precedes, ← hmore]
    exact (List.singleton_sublist.2 hmem).append (List.singleton_sublist.2 houtside)

/-- The turn of another task is taken. -/
lemma Ahead.tail (h : e.Ahead i) (hne : i ≠ k)
    (hqueue : e.schedule.queue = .turn k :: schedule.queue) : Ahead i { e with schedule } := by
  have hturns : turnsOf e.schedule.queue = k :: turnsOf schedule.queue := by
    rw [hqueue]
    rfl
  rw [Ahead, hturns] at h
  refine ⟨(List.mem_cons.1 h.1).resolve_left hne, fun houtside => ?_⟩
  exact (h.2 (List.mem_cons_of_mem _ houtside)).tail hne hqueue

/-- Nothing precedes the task whose turn comes first. -/
lemma Rest.not_precedes (h : Rest True e) (hqueue : e.schedule.queue = .turn j :: schedule.queue)
    (hne : i ≠ j) : ¬ e.Precedes i j := by
  intro hprecedes
  have hmem : j ∈ turnsOf schedule.queue :=
    (hprecedes.tail hne hqueue).subset (List.mem_cons_of_mem _ List.mem_cons_self)
  have honce := (h.orderly.lined trivial).once
  rw [hqueue] at honce
  have hturns : (j :: turnsOf schedule.queue).Nodup :=
    (List.nodup_append.1 (List.nodup_append.1 honce).2.1).2.1
  exact (List.nodup_cons.1 hturns).1 hmem

lemma Touched.turns {off : Nat → Prop} (h : Touched off e e') :
    turnsOf e.schedule.queue <+: turnsOf e'.schedule.queue :=
  h.schedule.queue.2.2.2.filterMap _

/-! ## Nobody is cancelled -/

namespace Uncut

lemma of_crew (h : Crew ρ (fun _ => False) e) : e.Uncut :=
  fun t ht => Bool.eq_false_iff.2 fun hcancelled => h.cancelled t ht hcancelled

lemma trail (h : e.Uncut) : Trail busy e :=
  ⟨fun _ t ht hcancelled _ => absurd hcancelled (Bool.eq_false_iff.1 (h t ht)),
    fun _ t ht hcancelled _ => absurd hcancelled (Bool.eq_false_iff.1 (h t ht))⟩

lemma alterTask (h : e.Uncut) {f : Task → Task} (hf : ∀ t, (f t).cancelled = t.cancelled)
    (i : TaskId) : (e.alterTask i f).Uncut := by
  intro t ht
  obtain ⟨hold, -⟩ | ⟨t₀, ht₀, -, rfl⟩ := mem_alterTask ht
  · exact h t hold
  · exact (hf t₀).trans (h t₀ ht₀)

lemma await (h : e.Uncut) (i : TaskId) (w : Work) (wait : Wait) : (e.await i w wait).Uncut := by
  refine h.alterTask (fun _ => ?_) i
  rfl

lemma awaitTime (h : e.Uncut) (i : TaskId) (w : Work) (delay : Binary64) :
    (e.awaitTime i w delay).Uncut := by
  intro t ht
  obtain ⟨hold, -⟩ | ⟨t₀, ht₀, -, -, -, hcancelled, -⟩ := mem_awaitTime ht
  · exact h t hold
  · exact hcancelled.trans (h t₀ ht₀)

lemma spawn (h : e.Uncut) (k : Nat) (w : Work) : (e.spawn k w).Uncut := by
  intro t ht
  obtain ht | ht := List.mem_append.1 ht
  · exact h t ht
  · rw [List.mem_singleton.1 ht]

lemma finishTask (h : e.Uncut) (i : TaskId) : (e.finishTask i).Uncut := by
  intro t ht
  obtain ⟨t₀, ht₀, -, -, hcancelled, -⟩ := mem_wake ht
  exact hcancelled.trans (h t₀ (List.mem_filter.1 ht₀).1)

lemma takeFrame (h : e.Uncut) (k : Nat) (p : Payload) : (e.takeFrame k p).Uncut := by
  rw [Engine.takeFrame]
  split_ifs
  · exact h
  · exact spawn (e := Engine.alterListener k (fun l =>
      { l with events := l.events ++ [e.nextTask] }) (Engine.alterListener k _ e)) h k _

end Uncut

/-! ## What keeps cancelled tasks in their places -/

namespace Trail

/-- Calls join the queue, tasks that are cancelled were so before, and pauses stay. -/
lemma persist (h : Trail busy e) (hturns : turnsOf e.schedule.queue <+: turnsOf e'.schedule.queue)
    (hrunning : (e'.listener 0).running = (e.listener 0).running)
    (hstopping : e'.stopping = e.stopping)
    (hcut : ∀ t' ∈ e'.tasks, t'.cancelled = true →
      ∃ t ∈ e.tasks, t.id = t'.id ∧ t.cancelled = true ∧ busy ≠ some t.id)
    (hpause : (e.listener 0).running = true → ∀ p ∈ e.tasks, p.cancelled = false →
      p.work = .pause → ∃ p' ∈ e'.tasks, p'.cancelled = false ∧ p'.work = .pause ∧ p'.id = p.id) :
    Trail none e' := by
  refine ⟨fun hruns t' ht' hcancelled' _ => ?_, fun hstops t' ht' hcancelled' _ => ?_⟩
  · rw [hrunning] at hruns
    obtain ⟨t, ht, hid, hcancelled, hbusy⟩ := hcut t' ht' hcancelled'
    obtain ⟨p, hp, hgoing, hwork, hprecedes⟩ := h.running hruns t ht hcancelled hbusy
    obtain ⟨p', hp', hgoing', hwork', hid'⟩ := hpause hruns p hp hgoing hwork
    refine ⟨p', hp', hgoing', hwork', ?_⟩
    rw [← hid, hid']
    exact hprecedes.mono hturns
  · rw [hrunning] at hstops
    obtain ⟨t, ht, hid, hcancelled, hbusy⟩ := hcut t' ht' hcancelled'
    obtain ⟨hcancelling, hahead⟩ := h.stopped hstops t ht hcancelled hbusy
    rw [hstopping, ← hid]
    exact ⟨hcancelling, hahead.mono hturns⟩

/-- Nothing happens to the tasks but that they join the queue. -/
lemma same (h : Trail none e) (hturns : turnsOf e.schedule.queue <+: turnsOf e'.schedule.queue)
    (hrunning : (e'.listener 0).running = (e.listener 0).running)
    (hstopping : e'.stopping = e.stopping) {f : Task → Task} (htasks : e'.tasks = e.tasks.map f)
    (hf : ∀ t ∈ e.tasks, (f t).id = t.id ∧ (f t).cancelled = t.cancelled ∧
      (t.work = .pause → (f t).work = .pause)) : Trail none e' := by
  refine h.persist hturns hrunning hstopping (fun t' ht' hcancelled => ?_)
    fun _ p hp hgoing hwork => ?_
  · rw [htasks] at ht'
    obtain ⟨t, ht, rfl⟩ := List.mem_map.1 ht'
    obtain ⟨hid, hsame, -⟩ := hf t ht
    exact ⟨t, ht, hid.symm, hsame.symm.trans hcancelled, by rintro ⟨⟩⟩
  · obtain ⟨hid, hsame, hstays⟩ := hf p hp
    exact ⟨f p, htasks ▸ List.mem_map_of_mem hp, hsame.trans hgoing, hstays hwork, hid⟩

lemma wake (h : Trail none e) (q : Task → Bool) : Trail none (e.wake q) := by
  refine h.same (touches_wake q e : Touched (fun _ => False) e _).turns rfl rfl rfl fun t _ => ?_
  split_ifs
  · exact ⟨rfl, rfl, id⟩
  · exact ⟨rfl, rfl, id⟩

/-- The first call is taken from the queue, which is nobody's turn. -/
lemma drop (h : Trail none e) (hqueue : turnsOf schedule.queue = turnsOf e.schedule.queue) :
    Trail none { e with schedule } := by
  refine h.same (f := id) ?_ rfl rfl (List.map_id _).symm fun t _ =>
    ⟨rfl, rfl, id⟩
  rw [hqueue]

/-- A task takes its turn. -/
lemma take (h : Trail none e) (hqueue : e.schedule.queue = .turn i :: schedule.queue) :
    Trail (some i) { e with schedule } := by
  refine ⟨fun hruns t ht hcancelled hbusy => ?_, fun hstops t ht hcancelled hbusy => ?_⟩
  · obtain ⟨p, hp, hgoing, hwork, hprecedes⟩ := h.running hruns t ht hcancelled (by rintro ⟨⟩)
    exact ⟨p, hp, hgoing, hwork, hprecedes.tail (fun hid => hbusy (congrArg some hid.symm)) hqueue⟩
  · obtain ⟨hcancelling, hahead⟩ := h.stopped hstops t ht hcancelled (by rintro ⟨⟩)
    exact ⟨hcancelling, hahead.tail (fun hid => hbusy (congrArg some hid.symm)) hqueue⟩

/-- A pause begins behind all tasks that are cancelled, and the task that began it ends. -/
lemma spawnPause (hqueued : ∀ t ∈ e.tasks, t.cancelled = true → t.id ∈ turnsOf e.schedule.queue)
    (hrunning : (e.listener 0).running = true) (hi : e.nextTask ≠ i) :
    Trail none ((e.spawn 0 .pause).finishTask i) := by
  have hturns : turnsOf (e.spawn 0 .pause).schedule.queue =
      turnsOf e.schedule.queue ++ [e.nextTask] := turnsOf_append _ _
  have htouches : Touched (fun _ => False) (e.spawn 0 .pause) _ := (Works.finishTask i _).touched
  have hmore := htouches.turns
  refine ⟨fun _ t ht hcancelled _ => ?_, fun hstops => absurd hrunning (Bool.eq_false_iff.1 hstops)⟩
  have hleft : (⟨e.nextTask, 0, .pause, .turn, none, false⟩ : Task) ∈
      (e.spawn 0 .pause).tasks.filter (·.id != i) :=
    List.mem_filter.2 ⟨List.mem_append_right _ List.mem_cons_self, bne_iff_ne.2 hi⟩
  refine ⟨_, List.mem_map_of_mem hleft, rfl, rfl, Precedes.mono (e := e.spawn 0 .pause) ?_ hmore⟩
  rw [Precedes, hturns]
  refine List.Sublist.append (List.singleton_sublist.2 ?_) (List.Sublist.refl _)
  obtain ⟨t₀, ht₀, hid, -, hcancelled₀, -⟩ := mem_wake ht
  rw [hcancelled₀] at hcancelled
  obtain ht₀ | ht₀ := List.mem_append.1 (List.mem_filter.1 ht₀).1
  · exact hid ▸ hqueued t₀ ht₀ hcancelled
  · rw [List.mem_singleton.1 ht₀] at hcancelled
    cases hcancelled

end Trail

/-! ## A connection is lost -/

/-- Who is cancelled was so before, or is the task that is cancelled now and joins the queue. -/
lemma cancelled_cancel (ht : t ∈ (e.cancel i).tasks) (hcancelled : t.cancelled = true) :
    (∃ t₀ ∈ e.tasks, t₀.id = t.id ∧ t₀.cancelled = true) ∨ t.id = i ∧ t.wait = .turn := by
  obtain ⟨t₁, ht₁, rfl⟩ := List.mem_map.1 ht
  obtain ⟨hold, -⟩ | ⟨t₀, -, hid, rfl⟩ := mem_alterTask ht₁
  · left
    split_ifs at hcancelled ⊢
    · exact ⟨t₁, hold, rfl, hcancelled⟩
    · exact ⟨t₁, hold, rfl, hcancelled⟩
  · right
    split_ifs with hwaits
    · exact ⟨hid, rfl⟩
    · refine ⟨hid, by_contra fun hturn => hwaits ?_⟩
      exact Bool.and_eq_true_iff.2 ⟨beq_iff_eq.2 hid, bne_iff_ne.2 hturn⟩

/-- A task that is ready and has not its turn stands in the queue. -/
lemma Orderly.mem_turns (h : e.Orderly True (some i)) (ht : t ∈ e.tasks) (hwait : t.wait = .turn)
    (hi : t.id ≠ i) (houtside : t.id ≠ outside) : t.id ∈ turnsOf e.schedule.queue := by
  obtain hmem | hmem := List.mem_append.1 ((h.lined trivial).stands t ht hwait)
  · exact absurd (List.mem_singleton.1 hmem) hi
  · obtain hmem | hmem := List.mem_append.1 hmem
    · split_ifs at hmem
      · exact absurd (List.mem_singleton.1 hmem) houtside
      · cases hmem
    · exact hmem

/-- With the connection the heartbeat is cancelled, and the pause that begins stands behind it. -/
lemma Busy.trail_disconnected (h : Busy True i (.link l) e) (hl : l ≠ .pausing)
    (huncut : e.Uncut) (hrunning : (e.listener 0).running = true) :
    Trail none ((e.disconnected 0).finishTask i) := by
  have hlistener := listener_dropConnection h.orderly.station
  have hqueued : ∀ t ∈ (e.dropConnection 0).tasks, t.cancelled = true →
      t.id ∈ turnsOf (e.dropConnection 0).schedule.queue := by
    intro t ht hcancelled
    obtain ⟨-, hdrop⟩ | ⟨b, hb, hdrop⟩ := dropHeartbeat_cases 0 e
    · rw [dropConnection, hdrop] at ht
      exact absurd hcancelled (Bool.eq_false_iff.1 (huncut t ht))
    · rw [dropConnection, hdrop] at ht ⊢
      have hbi : b ≠ i := by
        rintro rfl
        cases h.sound.slots.beats b _ hb h.duty
      obtain ⟨t₀, ht₀, -, hcut⟩ | ⟨rfl, hwait⟩ := cancelled_cancel ht hcancelled
      · exact absurd hcut (Bool.eq_false_iff.1 (huncut t₀ ht₀))
      · exact (h.orderly.cancel _).mem_turns ht hwait hbi (h.sound.slots.ne_outside hb)
  rw [disconnected_eq, if_pos (by rw [hlistener]; exact hrunning), scheduleReconnect,
    h.reconnect_dropConnection hl, if_neg Bool.false_ne_true]
  refine .spawnPause (e := (e.dropConnection 0).alterListener 0 _) hqueued ?_ ?_
  · refine (Quiet.running_alterListener (fun _ => ?_) 0 _).trans ?_
    · rfl
    · rw [hlistener]
      exact hrunning
  · exact (nextTask_dropConnection 0 e).symm ▸ h.orderly.ne_next.symm

lemma Busy.trail_closed (h : Busy True i (.link .closing) e) (huncut : e.Uncut)
    (hrunning : (e.listener 0).running = true) (failure : Option Failure) :
    Trail none (e.closed 0 i failure) := by
  rw [Engine.closed.eq_def]
  split
  · exact (huncut.finishTask i).trail
  · exact h.trail_disconnected (by rintro ⟨⟩) huncut hrunning

lemma Busy.trail_endConnection {feed : Feed} {a : Arrival}
    (h : Busy True i (.link (.reading s)) e) (hnext : e.feed.next? s = some (a, feed))
    (hends : a.ends = true) (huncut : e.Uncut) (hrunning : (e.listener 0).running = true) :
    Trail none (Engine.endConnection 0 i s { e with feed }) := by
  rw [Engine.endConnection]
  split_ifs
  · exact (h.close hnext hends).trail_closed huncut hrunning _
  · exact (Uncut.awaitTime (e := { e with feed := (feed.close s).1 }) huncut i _ _).trail

lemma Busy.trail_readFrom (h : Busy True i (.link (.reading s)) e) (huncut : e.Uncut)
    (hrunning : (e.listener 0).running = true) (fuel : Nat) :
    Trail none (e.readFrom 0 i s fuel) := by
  induction fuel generalizing e with
  | zero => exact (huncut.await i _ _).trail
  | succ fuel ih =>
    rw [Engine.readFrom]
    cases hnext : e.feed.next? s with
    | none => exact (huncut.await i _ _).trail
    | some r =>
      obtain ⟨a, feed⟩ := r
      cases a with
      | message m =>
        cases m with
        | frame p =>
          refine ih (h.takeFrame hnext) (Uncut.takeFrame (e := { e with feed }) huncut 0 p) ?_
          exact (Quiet.takeFrame 0 p).running.trans hrunning
        | error => exact h.trail_endConnection hnext rfl huncut hrunning
        | control => exact ih (h.hear hnext rfl rfl) huncut hrunning
      | ended => exact h.trail_endConnection hnext rfl huncut hrunning
      | failed f => exact h.trail_endConnection hnext rfl huncut hrunning

lemma Busy.trail_connected (h : Busy True i (.link .shaking) e) (huncut : e.Uncut)
    (hrunning : (e.listener 0).running = true) (a : Attempt) :
    Trail none (e.connected 0 i a) := by
  rw [Engine.connected]
  split
  · exact h.trail_disconnected (by rintro ⟨⟩) huncut hrunning
  · have haccepted : Uncut ((Engine.alterListener 0 (fun l => { l with
        socket := some e.feed.sockets.length, phase := .connected
        heartbeat := some e.nextTask }) { e with feed := e.feed.accept a }).spawn 0
          (.rest e.feed.sockets.length)) :=
      Uncut.spawn (e := Engine.alterListener 0 _ { e with feed := e.feed.accept a }) huncut 0 _
    have hruns : ((Engine.alterListener 0 (fun l => { l with
        socket := some e.feed.sockets.length, phase := .connected
        heartbeat := some e.nextTask }) { e with feed := e.feed.accept a }).listener 0).running =
          true :=
      (congrArg Listener.running (listener_of_station (e := { e with feed := e.feed.accept a })
        h.orderly.station _)).trans hrunning
    exact (h.accept a).trail_readFrom haccepted hruns _

lemma Busy.trail_connect (h : Busy True i (.link .connecting) e) (huncut : e.Uncut)
    (hrunning : (e.listener 0).running = true) : Trail none (e.connect 0 i) := by
  have hattempt : ((e.alterListener 0 fun l => { l with
      phase := .connecting, connectAttempts := l.connectAttempts + 1
      hasSession := true }).listener 0).running = true :=
    (congrArg Listener.running (listener_of_station h.orderly.station _)).trans hrunning
  rw [Engine.connect]
  dsimp only
  split_ifs
  · exact h.attempt.trail_connected huncut hattempt _
  · refine (Uncut.awaitTime (e := { e.alterListener 0 fun l => { l with
      phase := .connecting, connectAttempts := l.connectAttempts + 1, hasSession := true } with
      feed := (e.feed.attempt e.timing.feedUrl).1 }) huncut i _ _).trail

/-! ## Turns -/

/-- Only heartbeats and tasks of the connection are ever cancelled. -/
lemma Rest.ne_outside (h : Rest fifo e) (ht : t ∈ e.tasks) (hcancelled : t.cancelled = true) :
    t.id ≠ outside := by
  intro hid
  have hduty := h.orderly.duty_of_mem ht
  have hout : e.outline.cancelled t.id = true := by
    rw [outline_cancelled, h.orderly.task?_of_mem ht]
    exact hcancelled
  rw [hid, h.sound.slots.party] at hduty
  rw [hid] at hout
  obtain hbeat | ⟨l, hlink⟩ := h.sound.slots.cancelled outside hout
  · cases h.sound.slots.party.symm.trans hbeat
  · cases h.sound.slots.party.symm.trans hlink

/-- While the listener runs, nobody is cancelled when the task of the connection takes its turn. -/
lemma Trail.uncut_of_link (h : Trail none e) (hrest : Rest True e)
    (hqueue : e.schedule.queue = .turn t.id :: schedule.queue) (ht : t ∈ e.tasks)
    (hgoing : t.cancelled = false) (hlink : t.work.duty = .link l)
    (hrunning : (e.listener 0).running = true) : e.Uncut := by
  intro t' ht'
  by_contra hcut
  obtain ⟨p, hp, -, hwork, hprecedes⟩ :=
    h.running hrunning t' ht' (Bool.not_eq_false _ ▸ hcut) (by rintro ⟨⟩)
  have hpause : e.outline.duty p.id = some (.link .pausing) := by
    rw [hrest.orderly.duty_of_mem hp, hwork]
    rfl
  have hduty : e.outline.duty t.id = some (.link l) := by
    rw [hrest.orderly.duty_of_mem ht, hlink]
  rw [hrest.sound.slots.single p.id t.id _ _ hpause hduty] at hprecedes
  refine hrest.not_precedes hqueue (fun hid => hcut ?_) hprecedes
  rw [List.inj_on_of_nodup_map hrest.orderly.unique ht' ht hid]
  exact hgoing

/-- While it stops the listener, the party outside goes on when nobody is cancelled. -/
lemma Trail.uncut_of_outside (h : Trail none e) (hrest : Rest True e)
    (hqueue : e.schedule.queue = .turn outside :: schedule.queue)
    (hstopped : (e.listener 0).running = false) : e.Uncut := by
  intro t ht
  by_contra hcut
  have hcancelled : t.cancelled = true := Bool.not_eq_false _ ▸ hcut
  obtain ⟨-, -, hprecedes⟩ := h.stopped hstopped t ht hcancelled (by rintro ⟨⟩)
  refine hrest.not_precedes hqueue (hrest.ne_outside ht hcancelled) (hprecedes ?_)
  rw [hqueue]
  exact List.mem_cons_self

/-- The heartbeat that a listener holds which does not run is cancelled, or done. -/
lemma Pulse.beatsIn (h : Pulse e) (hrest : Rest fifo e)
    (hstopped : (e.listener 0).running = false) :
    e.BeatsIn fun i => ∃ t ∈ e.tasks, t.id = i ∧ t.cancelled = true := by
  intro j hj
  by_cases hlive : ∃ t ∈ e.tasks, t.id = j
  · obtain ⟨t, ht, rfl⟩ := hlive
    refine .inl ⟨t, ht, rfl, ?_⟩
    by_contra hgoing
    have hsilent := (h.silent hstopped t ht (Bool.eq_false_iff.2 hgoing)).1
    have hduty := hrest.sound.slots.beats t.id _ hj (hrest.orderly.duty_of_mem ht)
    cases hwork : t.work with
    | rest _ => rw [hwork] at hsilent; cases hsilent
    | beat _ => rw [hwork] at hsilent; cases hsilent
    | sent _ _ => rw [hwork] at hsilent; cases hsilent
    | _ => rw [hwork] at hduty; cases hduty
  · exact .inr ⟨hrest.sound.slots.heartbeatBelow j hj, fun t ht hid => hlive ⟨t, ht, hid⟩⟩

/-! ## Stopping -/

/-- Tasks are cancelled one after the other; whoever was cancelled before stands in the queue, and
somebody's end is still to be awaited. -/
lemma Trail.cancelNext (hcrew : Crew ρ (fun _ => True) e) (hρ : ρ ≠ some outside)
    (hstopped : (e.listener 0).running = false)
    (hqueued : ∀ t ∈ e.tasks, t.cancelled = true → t.id ∈ turnsOf e.schedule.queue)
    {ids : List TaskId} (hlive : e.Uncut ∨ ∃ i ∈ ids, e.isLive i = true) (houtside : outside ∉ ids)
    (hrest : Rest True (e.cancelNext 0 ids)) : Trail none (e.cancelNext 0 ids) := by
  induction ids with
  | nil =>
    obtain huncut | ⟨i, hi, -⟩ := hlive
    · have hnobody : Crew ρ (fun _ => False) e :=
        hcrew.mono fun t ht hcancelled _ => Bool.eq_false_iff.1 (huncut t ht) hcancelled
      exact (Uncut.of_crew (hnobody.closeAndDrain hρ)).trail
    · cases hi
  | cons i ids ih =>
    rw [Engine.cancelNext] at hrest ⊢
    split_ifs at hrest ⊢ with hi
    · have hne : i ≠ outside := fun hid => houtside (hid ▸ List.mem_cons_self)
      refine ⟨fun hruns => absurd hruns (Bool.eq_false_iff.1 hstopped),
        fun _ t ht hcancelled _ => ⟨⟨ids, rfl⟩, ?_, fun hmem => ?_⟩⟩
      · have hother : t.id ≠ outside := hrest.ne_outside ht hcancelled
        have hmem : t ∈ (e.cancel i).tasks := by
          obtain ⟨hold, -⟩ | ⟨t₀, -, hid, rfl⟩ := mem_alterTask ht
          · exact hold
          · exact absurd hid hother
        obtain ⟨t₀, ht₀, hid, hcut⟩ | ⟨-, hwait⟩ := cancelled_cancel hmem hcancelled
        · have htouches : Touched (fun _ => False) e (e.cancel i) := (Works.cancel i e).touched
          exact htouches.turns.subset (hid ▸ hqueued t₀ ht₀ hcut)
        · exact (hrest.orderly.lined trivial).stands t ht hwait
      · -- the party outside awaits an end, so it does not stand in the queue
        obtain ⟨p, hp, hid, hturn⟩ := (hrest.orderly.lined trivial).ready outside hmem
        obtain ⟨-, hother⟩ | ⟨p₀, -, -, rfl⟩ := mem_alterTask hp
        · exact absurd hid hother
        · cases hturn
    · refine ih ?_ (fun hmem => houtside (List.mem_cons_of_mem _ hmem)) hrest
      obtain huncut | ⟨j, hj, hlivej⟩ := hlive
      · exact .inl huncut
      · obtain rfl | hj := List.mem_cons.1 hj
        · exact absurd hlivej hi
        · exact .inr ⟨j, hj, hlivej⟩

/-- When stopping begins, somebody's end is awaited if anybody was cancelled. -/
lemma Trail.stopListening (h : Trail none e) (hrest : Rest True e)
    (hcrew : Crew ρ (fun _ => True) e) (hρ : ρ ≠ some outside) (hawake : e.isAwake = true) :
    Trail none (e.stopListening 0) := by
  have hrest' := hrest.stopListening hawake
  rw [Engine.stopListening] at hrest' ⊢
  split_ifs at hrest' ⊢ with hrunning
  · have hcrew' : Crew ρ (fun _ => True) (e.alterListener 0 fun l => { l with running := false }) :=
      hcrew.alterListener 0 fun _ => rfl
    have hstopped : ((e.alterListener 0 fun l => { l with running := false }).listener 0).running =
        false := congrArg Listener.running (listener_of_station hrest.orderly.station _)
    refine Trail.cancelNext hcrew' hρ hstopped (fun t ht hcancelled => ?_) ?_ (fun hmem => ?_)
      hrest'
    · obtain ⟨p, -, -, -, hprecedes⟩ := h.running hrunning t ht hcancelled (by rintro ⟨⟩)
      exact hprecedes.subset List.mem_cons_self
    · by_cases huncut : e.Uncut
      · exact .inl huncut
      · -- the pause behind a cancelled task is the one that the listener holds
        obtain ⟨t, ht, hcut⟩ : ∃ t ∈ e.tasks, ¬ t.cancelled = false := by
          simpa [Uncut] using huncut
        obtain ⟨p, hp, -, hwork, -⟩ :=
          h.running hrunning t ht (Bool.not_eq_false _ ▸ hcut) (by rintro ⟨⟩)
        have hslot : (e.listener 0).reconnect = some p.id := by
          refine hrest.sound.slots.reconnect p.id ?_
          rw [hrest.orderly.duty_of_mem hp, hwork]
          rfl
        refine .inr ⟨p.id, ?_, isLive_of_mem (e := e) hp⟩
        rw [hslot]
        exact List.mem_cons_self
    · obtain ⟨held, hheld, hid⟩ := List.mem_filterMap.1 hmem
      have hparty := hrest.sound.slots.party
      simp only [List.mem_cons, List.not_mem_nil, or_false] at hheld
      obtain rfl | rfl | rfl := hheld
      · cases hrest.sound.slots.pauses outside _ hid hparty
      · cases hrest.sound.slots.beats outside _ hid hparty
      · obtain ⟨l, hl, -⟩ := hrest.sound.slots.links outside _ hid hparty
        cases hl
  · have hstopping : e.stopping = none := by
      by_contra hsome
      obtain ⟨st, hst⟩ := Option.ne_none_iff_exists'.1 hsome
      have hasleep : e.isAwake = false := (hrest.sound.halts.stops st hst).2.1
      rw [hawake] at hasleep
      cases hasleep
    have huncut : e.Uncut := by
      intro t ht
      by_contra hcut
      obtain ⟨⟨rest, hst⟩, -⟩ := h.stopped (Bool.eq_false_iff.2 hrunning) t ht
        (Bool.not_eq_false _ ▸ hcut) (by rintro ⟨⟩)
      rw [hstopping] at hst
      cases hst
    exact Uncut.trail (e := e.endStop none) huncut

/-! ## A turn -/

lemma tasks_endCancelled (t : Task) (e : Engine) :
    (e.endCancelled t).tasks = (e.finishTask t.id).tasks := by
  rw [endCancelled]
  cases t.timer with
  | none => rfl
  | some n => rfl

/-- Who is cancelled and takes its turn is no more. -/
lemma tasks_runTask_cancelled (hcancelled : t.cancelled = true) :
    (e.runTask t).tasks = (e.finishTask t.id).tasks := by
  rw [runTask, if_pos hcancelled]
  dsimp only
  split
  · exact tasks_endCancelled t e
  · exact tasks_endCancelled t e

/-- A task takes its turn to end that is no pause going on. -/
lemma Trail.leave (h : Trail none e) (hrest : Rest True e)
    (hqueue : e.schedule.queue = .turn t.id :: schedule.queue) (ht : t ∈ e.tasks)
    (hother : t.cancelled = false → t.work ≠ .pause)
    (htasks : e'.tasks = (finishTask t.id { e with schedule }).tasks)
    (hturns : turnsOf schedule.queue <+: turnsOf e'.schedule.queue) (hhelm : e'.helm = e.helm) :
    Trail none e' := by
  refine (h.take hqueue).persist hturns (running_of_helm hhelm 0) (congrArg Helm.stopping hhelm)
    (fun t' ht' hcut => ?_) fun _ p hp hgoing hwork => ?_
  · rw [htasks] at ht'
    obtain ⟨t₀, ht₀, hid, -, hcut₀, -⟩ := mem_wake ht'
    obtain ⟨hold, hne⟩ := List.mem_filter.1 ht₀
    exact ⟨t₀, hold, hid.symm, hcut₀.symm.trans hcut,
      fun hbusy => bne_iff_ne.1 hne (Option.some.inj hbusy).symm⟩
  · have hne : p.id ≠ t.id := by
      intro hid
      rw [List.inj_on_of_nodup_map hrest.orderly.unique hp ht hid] at hgoing hwork
      exact hother hgoing hwork
    have hleft : p ∈ e.tasks.filter (·.id != t.id) := List.mem_filter.2 ⟨hp, bne_iff_ne.2 hne⟩
    rw [htasks]
    refine ⟨_, List.mem_map_of_mem hleft, ?_⟩
    split_ifs
    · exact ⟨hgoing, hwork, rfl⟩
    · exact ⟨hgoing, hwork, rfl⟩

/-- A task ends that was cancelled. -/
lemma Trail.turn_cancelled (h : Trail none e) (hrest : Rest True e)
    (hqueue : e.schedule.queue = .turn t.id :: schedule.queue) (ht : t ∈ e.tasks)
    (hcancelled : t.cancelled = true) : Trail none (runTask t { e with schedule }) := by
  have hhelm := helm_runTask (t := t) (e := { e with schedule })
    fun hgoing => absurd hcancelled (Bool.eq_false_iff.1 hgoing)
  exact h.leave hrest hqueue ht (fun hgoing => absurd hcancelled (Bool.eq_false_iff.1 hgoing))
    (tasks_runTask_cancelled hcancelled) (touches_runTask t { e with schedule }).turns hhelm

/-- In any order, calls may be made as well. -/
lemma Rest.anyOrder (h : Rest fifo e) (schedule : Schedule) : Rest False { e with schedule } := by
  refine ⟨{ h.orderly with live := h.orderly.live, lined := ?_ }, { h.sound with ledger := ?_ }⟩
  · rintro ⟨⟩
  · exact { h.sound.ledger with order := by rintro ⟨⟩ }

/-- A task takes its turn that has nothing to do with the connection, or the listener does not
run. -/
lemma Trail.turn_aside (h : Trail none e) (hrest : Rest True e) (hpulse : Pulse e)
    (hcrew : Crew ρ (fun _ => True) e)
    (hqueue : e.schedule.queue = .turn t.id :: schedule.queue) (ht : t ∈ e.tasks)
    (hwait : t.wait = .turn) (hgoing : t.cancelled = false) (hwork : t.work ≠ .outside)
    (haside : (e.listener 0).running = true → ∀ l, t.work.duty ≠ .link l) :
    Trail none (runTask t { e with schedule }) := by
  have hready := hrest.readyFirst hqueue ht hwait
  have hstopped : (∃ l, t.work.duty = .link l) → (e.listener 0).running = false := by
    rintro ⟨l, hl⟩
    exact Bool.eq_false_iff.2 fun hruns => haside hruns l hl
  have hnobody : Crew ρ (fun i => ∃ t ∈ e.tasks, t.id = i ∧ t.cancelled = true)
      { e with schedule } := by
    have hcut := hcrew.mono (D := fun i => ∃ t ∈ e.tasks, t.id = i ∧ t.cancelled = true)
      fun t ht hcancelled _ => ⟨t, ht, rfl, hcancelled⟩
    refine hcut.same rfl rfl rfl rfl fun c hc _ => ?_
    rw [hqueue]
    exact List.mem_cons_of_mem _ hc
  have hcrew' := hnobody.runTask hready (fun _ => hwork)
    (fun _ hlink => hpulse.beatsIn hrest (hstopped hlink)) fun _ hdials => by
      have hlink : ∃ l, t.work.duty = .link l := by
        cases hw : t.work with
        | connect => exact ⟨_, rfl⟩
        | connected a => exact ⟨_, rfl⟩
        | _ => rw [hw] at hdials; cases hdials
      rw [(hpulse.silent (hstopped hlink) t ht hgoing).2] at hdials
      cases hdials
  have hhelm := helm_runTask (t := t) (e := { e with schedule }) fun _ => hwork
  refine (h.take hqueue).persist (touches_runTask t _).turns (running_of_helm hhelm 0)
    (congrArg Helm.stopping hhelm) (fun t' ht' hcut => ?_) fun hruns p hp hpgoing hpause => ?_
  · obtain ⟨t₀, ht₀, hid, hcut₀⟩ := hcrew'.cancelled t' ht' hcut
    refine ⟨t₀, ht₀, hid, hcut₀, fun hbusy => ?_⟩
    rw [List.inj_on_of_nodup_map hrest.orderly.unique ht₀ ht (Option.some.inj hbusy).symm,
      hgoing] at hcut₀
    cases hcut₀
  · have hlinked : Linked p { e with schedule } := ⟨hp, hpgoing, .pausing, by rw [hpause]; rfl⟩
    have hne : t.id ≠ p.id := by
      intro hid
      rw [List.inj_on_of_nodup_map hrest.orderly.unique ht hp hid] at haside
      exact haside hruns .pausing (by rw [hpause]; rfl)
    have hapart := Apart.runTask (hrest.anyOrder schedule) hruns hlinked ht hne
    obtain ⟨p', hp', hstays⟩ := hapart.stays p hlinked rfl
    exact ⟨p', hp'.mem, hp'.going, hstays.work.trans hpause, hstays.id⟩

/-- The task of the connection takes its turn while the listener runs. -/
lemma Trail.turn_link (h : Trail none e) (hrest : Rest True e)
    (hcrew : Crew ρ (fun _ => True) e)
    (hqueue : e.schedule.queue = .turn t.id :: schedule.queue) (ht : t ∈ e.tasks)
    (hwait : t.wait = .turn) (hgoing : t.cancelled = false) (hlink : t.work.duty = .link l)
    (hrunning : (e.listener 0).running = true) : Trail none (runTask t { e with schedule }) := by
  have hready := hrest.readyFirst hqueue ht hwait
  have huncut : Uncut { e with schedule } :=
    h.uncut_of_link hrest hqueue ht hgoing hlink hrunning
  -- a pause goes on or is over without a heartbeat, so nobody is cancelled
  have hpausing : t.work.duty = .link .pausing → Trail none (runTask t { e with schedule }) := by
    intro hpause
    have hnobody : Crew ρ (fun _ => False) { e with schedule } := by
      have hcut := hcrew.mono (D := fun _ => False)
        fun t ht hcancelled _ => Bool.eq_false_iff.1 (huncut t ht) hcancelled
      refine hcut.same rfl rfl rfl rfl fun c hc _ => ?_
      rw [hqueue]
      exact List.mem_cons_of_mem _ hc
    have hheartbeat : (e.listener 0).heartbeat = none :=
      (hrest.sound.phases.pausing t.id (by rw [hrest.orderly.duty_of_mem ht, hpause])).2
    refine (Uncut.of_crew (hnobody.runTask hready (fun _ hout => ?_) (fun _ _ j hj => ?_)
      fun _ hdials => ?_)).trail
    · rw [hout] at hpause
      cases hpause
    · cases hheartbeat.symm.trans hj
    · cases hw : t.work with
      | connect => rw [hw] at hpause; cases hpause
      | connected a => rw [hw] at hpause; cases hpause
      | _ => rw [hw] at hdials; cases hdials
  cases hw : t.work with
  | pause => exact hpausing (by rw [hw]; rfl)
  | reconnect => exact hpausing (by rw [hw]; rfl)
  | connect =>
    rw [runTask, if_neg (Bool.eq_false_iff.1 hgoing), hw, hrest.orderly.home t ht]
    exact (hready.busy hw rfl (by rintro ⟨⟩)).trail_connect huncut hrunning
  | connected a =>
    rw [runTask, if_neg (Bool.eq_false_iff.1 hgoing), hw, hrest.orderly.home t ht]
    exact (hready.busy hw rfl (by rintro ⟨⟩)).trail_connected huncut hrunning a
  | read s =>
    rw [runTask, if_neg (Bool.eq_false_iff.1 hgoing), hw, hrest.orderly.home t ht]
    exact (hready.busy hw rfl (by rintro ⟨⟩)).trail_readFrom huncut hrunning _
  | closed failure =>
    rw [runTask, if_neg (Bool.eq_false_iff.1 hgoing), hw, hrest.orderly.home t ht]
    exact (hready.busy hw rfl (by rintro ⟨⟩)).trail_closed huncut hrunning failure
  | _ => rw [hw] at hlink; cases hlink

/-! ### The party outside -/

lemma wakeOutside_awake (hst : e.stopping = none) :
    e.wakeOutside = { e with isAwake := true } := by
  simp only [wakeOutside, hst]

lemma wakeOutside_cancelling {ids : List TaskId} (hst : e.stopping = some (.cancelling ids)) :
    e.wakeOutside = e.cancelNext (e.stations.length - 1) ids := by
  simp only [wakeOutside, hst]

lemma wakeOutside_closing {failure : Option Failure} (hst : e.stopping = some (.closing failure)) :
    e.wakeOutside = e.socketClosed (e.stations.length - 1) failure := by
  simp only [wakeOutside, hst]

lemma wakeOutside_draining (hst : e.stopping = some .draining) :
    e.wakeOutside = e.leaveSession (e.stations.length - 1) := by
  simp only [wakeOutside, hst]

/-- A turn of the party outside. -/
lemma runTask_outside (hgoing : t.cancelled = false) (hwork : t.work = .outside) :
    e.runTask t = e.wakeOutside := by
  rw [runTask, if_neg (Bool.eq_false_iff.1 hgoing), hwork]

/-- The party outside goes on with stopping, or wakes up. -/
lemma Trail.turn_outside (h : Trail none e) (hrest : Rest True e)
    (hcrew : Crew ρ (fun _ => True) e)
    (hqueue : e.schedule.queue = .turn t.id :: schedule.queue) (ht : t ∈ e.tasks)
    (hwait : t.wait = .turn) (hgoing : t.cancelled = false) (hwork : t.work = .outside) :
    Trail none (runTask t { e with schedule }) := by
  have hready := hrest.readyFirst hqueue ht hwait
  have hid : t.id = outside :=
    hrest.sound.slots.parties t.id (by rw [hrest.orderly.duty_of_mem ht, hwork]; rfl)
  have hρ : ρ ≠ some outside := by
    have hfits := hcrew.fits t ht
    rw [hwork, hid] at hfits
    exact hfits
  have hlast : e.stations.length - 1 = 0 := by
    obtain ⟨s, hs⟩ := hrest.orderly.station
    rw [hs]
    rfl
  have hwoken : Rest True (wakeOutside { e with schedule }) := hready.wakeOutside hwork
  rw [runTask_outside hgoing hwork]
  obtain hst | ⟨st, hst⟩ := Option.eq_none_or_eq_some e.stopping
  · rw [wakeOutside_awake (e := { e with schedule }) hst]
    refine (h.take hqueue).persist List.prefix_rfl rfl rfl (fun t' ht' hcut => ?_)
      fun _ p hp hpgoing hpause => ⟨p, hp, hpgoing, hpause, rfl⟩
    refine ⟨t', ht', rfl, hcut, fun hbusy => hrest.ne_outside ht' hcut ?_⟩
    exact (Option.some.inj hbusy).symm.trans hid
  · have hstopped := (hrest.stops hst).1
    have huncut : e.Uncut := h.uncut_of_outside hrest (hid ▸ hqueue) hstopped
    have hcrew₀ : Crew ρ (fun _ => True) { e with schedule } := by
      refine hcrew.same rfl rfl rfl rfl fun c hc _ => ?_
      rw [hqueue]
      exact List.mem_cons_of_mem _ hc
    have hnobody : Crew ρ (fun _ => False) { e with schedule } :=
      hcrew₀.mono fun t ht hcancelled _ => Bool.eq_false_iff.1 (huncut t ht) hcancelled
    cases st with
    | refresher => exact absurd rfl (hrest.stops hst).2
    | cancelling ids =>
      rw [wakeOutside_cancelling (e := { e with schedule }) hst, hlast] at hwoken ⊢
      refine Trail.cancelNext hcrew₀ hρ hstopped (fun t' ht' hcut => ?_) (.inl huncut)
        (fun hmem => ?_) hwoken
      · exact absurd hcut (Bool.eq_false_iff.1 (huncut t' ht'))
      · obtain hbeat | ⟨l, hlink⟩ := hrest.sound.halts.listed ids outside _ hst hmem
          hrest.sound.slots.party
        · cases hbeat
        · cases hlink
    | closing failure =>
      rw [wakeOutside_closing (e := { e with schedule }) hst, hlast]
      exact (Uncut.of_crew (hnobody.socketClosed hρ failure)).trail
    | draining =>
      rw [wakeOutside_draining (e := { e with schedule }) hst, hlast]
      exact (Uncut.of_crew hnobody.leaveSession).trail

/-- A turn keeps cancelled tasks in their places. -/
theorem Trail.turn (h : Trail none e) (hrest : Rest True e) (hpulse : Pulse e)
    (hcrew : Crew ρ (fun _ => True) e)
    (hqueue : e.schedule.queue = .turn t.id :: schedule.queue) (ht : t ∈ e.tasks)
    (hwait : t.wait = .turn) : Trail none (runTask t { e with schedule }) := by
  cases hgoing : t.cancelled with
  | true => exact h.turn_cancelled hrest hqueue ht hgoing
  | false =>
    by_cases hwork : t.work = .outside
    · exact h.turn_outside hrest hcrew hqueue ht hwait hgoing hwork
    · by_cases hlink : (e.listener 0).running = true ∧ ∃ l, t.work.duty = .link l
      · obtain ⟨hrunning, l, hl⟩ := hlink
        exact h.turn_link hrest hcrew hqueue ht hwait hgoing hl hrunning
      · exact h.turn_aside hrest hpulse hcrew hqueue ht hwait hgoing hwork
          fun hrunning l hl => hlink ⟨hrunning, l, hl⟩

end Engine

end FeedWatch
