import FeedWatch.Proofs.Listener.Stops

/-!
# Turns

Main statements: a task that is ready takes its turn from a sound engine to a sound engine
(`Ready.runTask`), and so does every other call (`Rest.goOff`, `Rest.settled`, `Rest.gathered`) and
everything that the party outside does while it is awake.
-/

namespace FeedWatch

namespace Engine

/-- A task is about to take its turn; if calls are made in order and it is to handle a frame, the
frame is the first that is pending. -/
structure Ready (fifo : Prop) (t : Task) (e : Engine) : Prop where
  orderly : e.Orderly fifo (some t.id)
  sound : e.outline.Sound fifo
  task : e.task? t.id = some t
  turn : t.wait = .turn
  first : fifo → ∀ before p after, e.outline.pending = before ++ (t.id, p) :: after → before = []

variable {e : Engine} {fifo : Prop} {t : Task}

/-! ## A task takes its turn -/

lemma Ready.duty (h : Ready fifo t e) : e.outline.duty t.id = some t.work.duty := by
  rw [outline_duty, h.task]
  rfl

/-- A task other than that of a frame is where its record says. -/
lemma Ready.busy {w : Work} (h : Ready fifo t e) (hwork : t.work = w) (hframe : w.frame? = none)
    (hparty : w.duty ≠ .party) : Busy fifo t.id w.duty e := by
  subst hwork
  have hpending : ∀ q ∈ e.outline.pending, q.1 ≠ t.id := by
    intro q hq hqt
    obtain ⟨t', ht', hq'⟩ := List.mem_filterMap.1 hq
    obtain ⟨hp, hid⟩ := pending?_eq_some.1 hq'
    -- a task is known by its number, so the pending frame would be that of this task
    have heq : t' = t :=
      List.inj_on_of_nodup_map h.orderly.unique ht' (mem_of_task? h.task) (hid.trans hqt)
    rw [heq, hframe] at hp
    cases hp
  refine ⟨h.orderly, ?_, ?_⟩
  · rw [Outline.put_self h.duty hpending]
    exact h.sound
  · intro hid
    have hduty := h.duty
    rw [hid, h.sound.slots.party] at hduty
    exact hparty (Option.some.inj hduty).symm

/-- Handling a frame begins. -/
lemma Ready.receive {p : Payload} (h : Ready fifo t e) (hwork : t.work = .receive p) :
    Rest fifo (e.progress 0 t.id fun registry epoch now pipeline =>
      pipeline.receive registry epoch now p) := by
  have hmem : (t.id, p) ∈ e.outline.pending :=
    List.mem_filterMap.2 ⟨t, mem_of_task? h.task, pending?_eq_some.2 ⟨by rw [hwork]; rfl, rfl⟩⟩
  obtain ⟨before, after, hpending⟩ := List.append_of_mem hmem
  have helse : t.id ≠ outside := by
    intro hid
    have hduty := h.duty
    rw [hid, h.sound.slots.party, hwork] at hduty
    cases hduty
  exact h.orderly.progress [p] helse (fun _ _ _ _ => Pipeline.received_receive)
    (h.sound.begin hpending fun hfifo => h.first hfifo _ _ _ hpending)

/-- A task that is about to end calls its timer off. -/
lemma Gone.endCancelled (h : Gone fifo t.id e) : Rest fifo (e.endCancelled t) := by
  rw [Engine.endCancelled]
  cases t.timer with
  | none => exact h.finishTask
  | some number =>
    have hcall : (e.schedule.callOff number).queue = e.schedule.queue := by
      rw [Schedule.callOff]
      split_ifs
      · rfl
      · rfl
    exact Gone.finishTask ⟨h.orderly.same h.orderly.station rfl rfl (congrArg turnsOf hcall) rfl,
      h.sound, h.elsewhere⟩

/-- A cancelled task ends. -/
lemma Ready.endCancelled (h : Ready fifo t e) (hcancelled : t.cancelled = true) :
    Rest fifo (e.endCancelled t) := by
  have hout : e.outline.cancelled t.id = true := by
    rw [outline_cancelled, h.task]
    exact hcancelled
  -- only heartbeats and links are ever cancelled, never a frame
  have hduty : t.work.duty ≠ .party ∧ t.work.duty ≠ .aside := by
    obtain hbeat | ⟨l, hlink⟩ := h.sound.slots.cancelled t.id hout
    · rw [Option.some.inj (h.duty.symm.trans hbeat)]
      exact ⟨by nofun, by nofun⟩
    · rw [Option.some.inj (h.duty.symm.trans hlink)]
      exact ⟨by nofun, by nofun⟩
  have helse : t.id ≠ outside := by
    intro hid
    have := h.duty
    rw [hid, h.sound.slots.party] at this
    exact hduty.1 (Option.some.inj this).symm
  refine Gone.endCancelled ⟨h.orderly, h.sound.leave h.duty hduty.1 (fun _ _ => hout) ?_, helse⟩
  refine h.sound.ledger.notPending ?_
  rw [h.duty]
  exact fun heq => hduty.2 (Option.some.inj heq)

/-- The party outside takes its turn. -/
lemma Ready.wakeOutside (h : Ready fifo t e) (hwork : t.work = .outside) :
    Rest fifo e.wakeOutside := by
  have hid : t.id = outside := h.sound.slots.parties t.id (by rw [h.duty, hwork]; rfl)
  have horderly : e.Orderly fifo (some outside) := hid ▸ h.orderly
  have hunawaited : e.outline.awaited = none := by
    rw [outline_awaited, ← hid, h.task, Option.bind_some, h.turn]
    rfl
  have hlast : e.stations.length - 1 = 0 := by
    obtain ⟨s, hs⟩ := h.orderly.station
    rw [hs]
    rfl
  -- while it stops the listener the party outside is not awake, and it awaits nothing in its turn
  have hstage : ∀ st, e.stopping = some st → Stops fifo st e := by
    intro st hst
    have hawake : e.outline.isAwake = false := (h.sound.halts.stops st hst).2.1
    have hnoted : ({ e.outline with stopping := some st, awaited := none, isAwake := false } :
        Outline) = e.outline := by
      rw [← hunawaited, ← hawake, ← hst]
      rfl
    exact ⟨horderly.asleep, hnoted ▸ h.sound⟩
  rw [Engine.wakeOutside.eq_def]
  dsimp only
  rw [hlast]
  split
  · rename_i hst
    exact ⟨horderly.awaken h.sound.outside_notPending, h.sound.wake hst⟩
  · rename_i hst
    exact absurd rfl (h.sound.halts.stops _ hst).2.2
  · rename_i hst
    exact (hstage _ hst).cancelNext
  · rename_i hst
    exact (hstage _ hst).socketClosed
  · rename_i hst
    exact (hstage _ hst).leaveSession

/-- A task takes its turn from a sound engine to a sound engine. -/
theorem Ready.runTask (h : Ready fifo t e) : Rest fifo (e.runTask t) := by
  have hstation : t.station = 0 := h.orderly.home t (mem_of_task? h.task)
  rw [Engine.runTask]
  split_ifs with hcancelled
  · have hrest := h.endCancelled hcancelled
    dsimp only
    split
    · exact hrest.enqueue rfl
    · exact hrest
  · rw [hstation]
    cases hwork : t.work with
    | outside => exact h.wakeOutside hwork
    | receive p => exact h.receive hwork
    | connect => exact (h.busy hwork rfl (by nofun)).connect
    | connected a => exact (h.busy hwork rfl (by nofun)).connected a
    | read socket => exact (h.busy hwork rfl (by nofun)).readFrom _
    | closed failure => exact (h.busy hwork rfl (by nofun)).closed failure
    | rest socket => exact (h.busy hwork rfl (by nofun)).awaitTime (w := .beat socket) rfl _
    | beat socket => exact (h.busy hwork rfl (by nofun)).beat socket
    | sent socket failure => exact (h.busy hwork rfl (by nofun)).sent socket failure
    | pause =>
      have hpause := h.busy hwork rfl (by nofun)
      dsimp only
      split
      · exact hpause.awaitTime (w := .reconnect) rfl _
      · exact (hpause.leave (by nofun)).finishTask
    | reconnect => exact (h.busy hwork rfl (by nofun)).reconnect
    | resume s => exact (h.busy hwork rfl (by nofun)).resume s
    | idle => exact (h.busy hwork rfl (by nofun)).awaitTime (w := .refresh) rfl _
    | refresh => exact (h.busy hwork rfl (by nofun)).refresh.awaitTime (w := .refresh) rfl _
    | vigil => exact (h.busy hwork rfl (by nofun)).watch

lemma Ready.make (h : Ready fifo t e) : Rest fifo (e.make (.turn t.id)) := by
  have hmake : e.make (.turn t.id) = e.runTask t := by
    rw [Engine.make]
    simp only [h.task]
  rw [hmake]
  exact h.runTask

/-! ## A timer goes off -/

lemma Rest.goOff (h : Rest fifo e) (a : Alarm) : Rest fifo (e.goOff a) := by
  cases a with
  | ring id number =>
    exact h.wakeWaiting _ (w := .timer number) (by nofun) rfl fun t ht =>
      beq_iff_eq.1 (Bool.and_eq_true_iff.1 ht).2
  | release => exact h.wakeWaiting _ (w := .release) (by nofun) rfl fun t ht => beq_iff_eq.1 ht
  | request =>
    have hrequest : Rest fifo { e with isRequested := true } :=
      ⟨h.orderly.same h.orderly.station rfl rfl rfl rfl, h.sound⟩
    exact hrequest.wakeWaiting _ (w := .request) (by nofun) rfl fun t ht => beq_iff_eq.1 ht

/-! ## What happens outside -/

lemma Rest.arrive (h : Rest fifo e) (a : Arrival) : Rest fifo (e.arrive a) := by
  have hfeed : Rest fifo { e with feed := e.feed.arrive a } := by
    refine ⟨h.orderly.same h.orderly.station rfl rfl rfl rfl, ?_⟩
    rw [outline_feed (closings_arrive a e.feed) rfl]
    exact h.sound
  exact hfeed.wakeWaiting _ (w := .arrival _) (by nofun) rfl fun t ht => beq_iff_eq.1 ht

lemma Rest.operate {α : Type} (h : Rest fifo e) (s : Station) (f : Session → Session × α) :
    Rest fifo (e.operate 0 s f).1 := by
  have hkeep : Rest fifo (e.keep 0 (f (e.session s)).1) :=
    ⟨h.orderly.keep _, outline_keep h.orderly _ ▸ h.sound⟩
  rw [Engine.operate]
  refine hkeep.mapTasks (fun t => ?_) (fun t => ?_) (fun t => ?_) (fun t => ?_) (fun t => ?_)
    (fun t => ?_) fun t => ?_
  all_goals cases hwork : t.work
  all_goals first | rfl | rw [hwork]

/-- The listener is started, unless it is running. -/
lemma Rest.startListener (h : Rest fifo e) (hawake : e.isAwake = true) :
    Rest fifo (e.startListener 0) := by
  rw [Engine.startListener]
  split_ifs with hrunning
  · exact h
  · obtain ⟨hfree, hheartbeat⟩ := h.sound.start hawake (Bool.eq_false_iff.2 hrunning)
    have hlisten := h.orderly.alterListener fun l => { l with
      running := true, connection := some e.nextTask }
    refine ⟨hlisten.spawn .connect, ?_⟩
    rw [outline_spawn_of hlisten 0 rfl, outline_alterListener h.orderly]
    exact hfree.dial rfl hheartbeat

lemma Rest.startRefresher (h : Rest fifo e) : Rest fifo (e.startRefresher 0) := by
  have hrefresher : Orderly fifo none { e with refresher := some e.nextTask } :=
    h.orderly.same h.orderly.station rfl rfl rfl rfl
  refine ⟨hrefresher.spawn .idle, ?_⟩
  rw [Engine.startRefresher, outline_spawn_of hrefresher 0 rfl]
  exact h.sound.spawnAside

/-- The party outside goes to sleep. -/
lemma Rest.sleep (h : Rest fifo e) (hawake : e.isAwake = true) (delay : Binary64) :
    Rest fifo { e.awaitTime outside .outside delay with isAwake := false } := by
  have hstopping : (e.awaitTime outside .outside delay).stopping = e.outline.stopping := by
    rw [awaitTime]
    split_ifs
    · rfl
    · rfl
  have hrest := (h.outsideTurn hawake).outsideAwaitsTime delay (h.sound.sleep hawake none)
  rw [← hstopping] at hrest
  exact hrest

end Engine

end FeedWatch
