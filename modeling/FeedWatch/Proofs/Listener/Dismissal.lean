import FeedWatch.Proofs.Listener.Winding

/-!
# The end of a watch

Stopping the watcher begins with the look at the settings file, whose end the party outside awaits
before it stops the listener.  Main statements: a listener stays tended when that look is dismissed
(`Tended.dismiss`) and when it has ended (`Tended.retire`), and once stopping is over, nobody is
left but the party outside, every frame that was read was handled, and every socket was closed
(`Tended.wound_up`).
-/

namespace FeedWatch.Engine

variable {e e' : Engine} {r : TaskId} {t : Task} {ρ : Option TaskId} {schedule : Schedule}

/-! ## The look at the settings file is dismissed -/

/-- Nobody waits for the frames of a listener that runs. -/
lemma Winding.of_running (hrunning : (e.listener 0).running = true) (hstopping : e.stopping = none)
    (hfailure : e.failure = none) : Winding e := by
  refine ⟨fun hstopped => absurd hrunning (Bool.eq_false_iff.1 hstopped), fun f hf => ?_,
    fun hstopped => absurd hrunning (Bool.eq_false_iff.1 hstopped), hfailure⟩
  rw [hstopping] at hf
  cases hf

namespace Tended

/-- While there is a look at the settings file, the listener runs. -/
lemma running (h : Tended (some r) e) : (e.listener 0).running = true := by
  by_contra hstopped
  cases h.watched (Bool.eq_false_iff.2 hstopped)

/-- A listener that runs is not being stopped. -/
lemma stopping (h : Tended ρ e) (hrunning : (e.listener 0).running = true) : e.stopping = none := by
  by_contra hsome
  obtain ⟨st, hst⟩ := Option.ne_none_iff_exists'.1 hsome
  rw [(h.rest.stops hst).1] at hrunning
  cases hrunning

/-- No call starts a listener. -/
lemma stopped_call (h : Tended ρ e) (hcall : InOrder e e')
    (hstopped : (e.listener 0).running = false) : (e'.listener 0).running = false := by
  cases hcall with
  | due alarms s hqueue => exact hstopped
  | call c s hqueue =>
    have hpulse : Pulse { e with schedule := s } :=
      h.pulse.step (h.rest.anyOrder e.schedule) (.call (.plan s))
    exact stopped_make hpulse (h.rest.anyOrder s) hstopped c

/-- The look at the settings file joins the queue, and the party outside awaits its end. -/
lemma dismiss (h : Tended (some r) e) (hawake : e.isAwake = true) :
    Tended (some r)
      ((e.wake fun t => t.id == r && t.wait != .turn).outsideAwaits (.completion r)) := by
  have hne : outside ≠ r := fun hid => h.ne_outside (congrArg some hid.symm)
  have hstopping := h.stopping h.running
  obtain ⟨woken, hwoken⟩ : ∃ woken, woken = e.wake fun t => t.id == r && t.wait != .turn :=
    ⟨_, rfl⟩
  have hready : ∀ t : Task, (t.id == r && t.wait != .turn) = true → t.wait ≠ .turn :=
    fun t ht => bne_iff_ne.1 (Bool.and_eq_true_iff.1 ht).2
  have houtline : woken.outline = e.outline := hwoken ▸ outline_wake_task hne
  have hrest : Rest True woken :=
    ⟨hwoken ▸ h.rest.orderly.wake _ hready, houtline ▸ h.rest.sound⟩
  have hawake' : woken.isAwake = true := by rw [hwoken]; exact hawake
  have htrail : Trail none woken := hwoken ▸ h.trail.wake _
  have hawaits : Rest True { woken.outsideAwaits (.completion r) with stopping := none } :=
    (hrest.outsideTurn hawake').outsideAwaits (by rintro ⟨⟩) <| by
      have hsleep := hrest.sound.sleep hawake' (some r)
      have hnone : woken.outline.stopping = none := by rw [houtline]; exact hstopping
      rw [← hnone]
      exact hsleep
  have hsame : ({ woken.outsideAwaits (.completion r) with stopping := none } : Engine) =
      woken.outsideAwaits (.completion r) := by
    have hnone : woken.stopping = none := by rw [hwoken]; exact hstopping
    rw [← hnone]
    rfl
  rw [hsame] at hawaits
  have hlistener : (woken.outsideAwaits (.completion r)).listener 0 = e.listener 0 := by
    rw [hwoken]
    rfl
  rw [← hwoken]
  refine ⟨hawaits, (hwoken ▸ h.pulse.wake _ : Pulse woken).quiet (.outsideAwaits _), ?_, ?_,
    .of_running ?_ ?_ ?_, fun hstopped => ?_⟩
  · rw [hwoken]
    exact (h.crew.wake _).outsideAwaits h.ne_outside _
  · refine htrail.same List.prefix_rfl rfl rfl rfl
      fun t ht => ?_
    split_ifs with hid
    · refine ⟨rfl, rfl, fun hpause => ?_⟩
      have hduty := hrest.orderly.duty_of_mem ht
      rw [hid, hrest.sound.slots.party, hpause] at hduty
      cases hduty
    · exact ⟨rfl, rfl, id⟩
  · rw [hlistener]
    exact h.running
  · rw [hwoken]
    exact hstopping
  · rw [hwoken]
    exact h.winding.failure
  · rw [hlistener, h.running] at hstopped
    cases hstopped

/-- The look at the settings file is gone. -/
lemma unwatched (h : Tended (some r) e) (hdone : ∀ t ∈ e.tasks, t.id ≠ r) : Tended none e :=
  ⟨h.rest, h.pulse, h.crew.retire hdone, h.trail, h.winding, fun _ => rfl⟩

/-- The look at the settings file has ended. -/
lemma retire (h : Tended (some t.id) e)
    (hqueue : e.schedule.queue = .turn t.id :: schedule.queue) (ht : t ∈ e.tasks)
    (hwait : t.wait = .turn) : Tended none (endCancelled t { e with schedule }) := by
  have hready := h.rest.readyFirst hqueue ht hwait
  have hwork : t.work = .idle ∨ t.work = .refresh := by
    by_contra hother
    obtain ⟨hidle, hrefresh⟩ := not_or.1 hother
    exact (h.crew.fits t ht).ne hidle hrefresh rfl
  have hgone : Gone True t.id { e with schedule } := by
    obtain hidle | hrefresh := hwork
    · refine (hready.busy hidle rfl (by rintro ⟨⟩)).leave fun s hs => ?_
      cases hs
    · refine (hready.busy hrefresh rfl (by rintro ⟨⟩)).leave fun s hs => ?_
      cases hs
  have htasks : (endCancelled t { e with schedule }).tasks =
      (finishTask t.id { e with schedule }).tasks := tasks_endCancelled t _
  have hhelm : (endCancelled t { e with schedule }).helm = e.helm :=
    helm_of_base (base_endCancelled t _)
  have hrunning : ((endCancelled t { e with schedule }).listener 0).running = true :=
    (running_of_helm hhelm 0).trans h.running
  have hstopping : (endCancelled t { e with schedule }).stopping = none :=
    (congrArg Helm.stopping hhelm).trans (h.stopping h.running)
  refine ⟨hgone.endCancelled, ?_, ?_, ?_,
    .of_running hrunning hstopping ((congrArg Helm.failure hhelm).trans h.winding.failure),
    fun _ => rfl⟩
  · exact (h.pulse.step (h.rest.anyOrder e.schedule) (.call (.plan schedule))).quiet
      (.endCancelled t)
  · refine ((h.crew_tail hqueue).endCancelled t).retire fun t' ht' => ?_
    rw [htasks] at ht'
    obtain ⟨-, -, -, -, hne⟩ := mem_finishTask ht'
    exact hne
  · refine h.trail.leave h.rest hqueue ht (fun _ hpause => ?_) htasks
      (Works.endCancelled t (fun _ => id) { e with schedule }).touched.turns hhelm
    obtain hidle | hrefresh := hwork
    · cases hidle.symm.trans hpause
    · cases hrefresh.symm.trans hpause

end Tended

/-! ## Stopping ends -/

lemma drain_awake (k : Nat) (b : Bool) (e : Engine) :
    drain k { e with isAwake := b } = e.drain k := by
  have hlistener : listener k { e with isAwake := b } = e.listener k := rfl
  rw [drain, drain, hlistener]
  dsimp only
  split_ifs
  · rfl
  · rw [foldl_enqueue, foldl_enqueue]
    rfl

lemma closeSocket_awake (k : Nat) (b : Bool) (e : Engine) :
    closeSocket k { e with isAwake := b } = e.closeSocket k := by
  have hclosed : ∀ (failure : Option Failure) (e : Engine),
      socketClosed k failure { e with isAwake := b } = e.socketClosed k failure := by
    intro failure e
    rw [socketClosed.eq_def, socketClosed.eq_def]
    split
    · rfl
    · exact drain_awake k b (e.alterListener k fun l => { l with socket := none })
  have hlistener : listener k { e with isAwake := b } = e.listener k := rfl
  rw [closeSocket.eq_def, closeSocket.eq_def, hlistener]
  split
  · exact drain_awake k b e
  · dsimp only
    split_ifs
    · exact hclosed _ { e with feed := (e.feed.close _).1 }
    · rw [awaitTime, awaitTime]
      split_ifs
      · rfl
      · rfl

/-- What stopping begins with does not depend on whether the party outside woke up before. -/
lemma stopListening_awake (k : Nat) (b : Bool) (e : Engine) :
    stopListening k { e with isAwake := b } = e.stopListening k := by
  have hcancel : ∀ (ids : List TaskId) (e : Engine),
      cancelNext k ids { e with isAwake := b } = e.cancelNext k ids := by
    intro ids e
    induction ids with
    | nil =>
      exact closeSocket_awake k b (e.alterListener k fun l => { l with
        reconnect := none, heartbeat := none, connection := none })
    | cons i ids ih =>
      rw [cancelNext, cancelNext, ih]
      rfl
  have hlistener : listener k { e with isAwake := b } = e.listener k := rfl
  rw [stopListening, stopListening, hlistener]
  split_ifs
  · exact hcancel _ (e.alterListener k fun l => { l with running := false })
  · rfl

/-- Once stopping is over, nobody is left but the party outside, the listener is disconnected, every
frame that was read was handled, and every socket was closed. -/
theorem Tended.wound_up (h : Tended ρ e) (hstopped : (e.listener 0).running = false)
    (hover : e.stopping = none) :
    (∀ t ∈ e.tasks, t.id = outside ∧ t.work = .outside ∧ t.cancelled = false) ∧
      (e.listener 0).phase = .disconnected ∧ e.received = dataFramesOf e.feed.read ∧
      ∀ s ∈ e.feed.sockets, s.closings ≠ 0 := by
  have hcancelling : ∀ rest, e.stopping ≠ some (.cancelling rest) := by
    rintro rest hrest
    rw [hover] at hrest
    cases hrest
  have hparty : ∀ t ∈ e.tasks, t.work = .outside ∧ t.cancelled = false := by
    intro t ht
    obtain ⟨hgoing, hwork | hframe⟩ := h.party_or_frame hstopped hcancelling ht
    · exact ⟨hwork, hgoing⟩
    · obtain ⟨rest, hst⟩ | ⟨f, hst⟩ | ⟨hst, -⟩ := h.winding.frames hstopped t ht hframe
      · exact absurd hst (hcancelling rest)
      · cases hover.symm.trans hst
      · cases hover.symm.trans hst
  have hidle : ∀ i l, e.outline.duty i ≠ some (.link l) := by
    intro i l hlink
    obtain ⟨rest, hrest, -⟩ := h.rest.sound.halts.remaining i l hstopped hlink
    exact hcancelling rest hrest
  refine ⟨fun t ht => ⟨?_, hparty t ht⟩, h.winding.phase hstopped hover, ?_, fun s hs hzero => ?_⟩
  · refine h.rest.sound.slots.parties t.id ?_
    rw [h.rest.orderly.duty_of_mem ht, (hparty t ht).1]
    rfl
  · have hpending : pendingOf e.tasks = [] := by
      refine List.filterMap_eq_nil_iff.2 fun t ht => ?_
      rw [Task.pending?, (hparty t ht).1]
      rfl
    have hledger := h.rest.sound.ledger.order trivial
    rw [show e.outline.pending = pendingOf e.tasks from rfl, hpending, List.map_nil,
      List.append_nil] at hledger
    exact hledger
  · obtain ⟨n, hn⟩ := List.mem_iff_getElem?.1 hs
    have hopen : e.outline.closings[n]? = some 0 := by
      show (e.feed.sockets.map Socket.closings)[n]? = some 0
      rw [List.getElem?_map, hn, Option.map_some, hzero]
    obtain ⟨rest, hrest⟩ | ⟨i, hlink⟩ := h.rest.sound.sockets.kept n hopen
    · exact hcancelling rest hrest
    · exact hidle i _ hlink

end FeedWatch.Engine
