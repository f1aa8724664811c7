import FeedWatch.Proofs.Listener.Trail

/-!
# A listener that is stopped winds up

Whoever stops a listener cancels the tasks of its connection, closes its socket, and waits for the
frames in flight.  `Engine.Winding` says that a frame in flight is waited for, or still to be, as
long as the listener does not run, and `Engine.Tended` puts together all that holds of a listener,
its tasks and the party outside.  Main statements: whatever happens leaves a listener tended
(`Tended.call` and what follows), and once stopping is over, the party outside is the only task,
every frame that was read was handled, and every socket was closed (`Tended.wound_up`).
-/

namespace FeedWatch

/-- Whether a task handles a frame. -/
def Work.isFrame : Work → Bool
  | receive _ | resume _ => true
  | _ => false

namespace Engine

/-- While a listener does not run, every frame is waited for, or tasks are still cancelled or the
socket closed before that; stopping fails no more than closing the socket. -/
structure Winding (e : Engine) : Prop where
  frames : (e.listener 0).running = false → ∀ t ∈ e.tasks, t.work.isFrame = true →
    (∃ rest, e.stopping = some (.cancelling rest)) ∨ (∃ f, e.stopping = some (.closing f)) ∨
      e.stopping = some .draining ∧
        ∃ p ∈ e.tasks, p.id = outside ∧ ∃ ids, p.wait = .gathering ids ∧ t.id ∈ ids
  mild : ∀ f, e.stopping = some (.closing f) → f ≠ some .other
  phase : (e.listener 0).running = false → e.stopping = none →
    (e.listener 0).phase = .disconnected
  failure : e.failure = none

/-- All that holds of a listener and its tasks, which are looked after.  Only while the listener
runs the look at the settings file goes on, in task `ρ`. -/
structure Tended (ρ : Option TaskId) (e : Engine) : Prop where
  rest : Rest True e
  pulse : Pulse e
  crew : Crew ρ (fun _ => True) e
  trail : Trail none e
  winding : Winding e
  watched : (e.listener 0).running = false → ρ = none

variable {e e' : Engine} {i j k : TaskId} {t p : Task} {w : Work} {ρ : Option TaskId}
variable {schedule : Schedule} {c : Call}

/-! ## Stopping goes on -/

lemma Crew.held {C : TaskId → Prop} (h : Crew ρ C e) (ht : t ∈ e.tasks)
    (hframe : t.work.isFrame = true) : t.id ∈ (e.listener 0).events := by
  have hfits := h.fits t ht
  cases hw : t.work with
  | receive _ => rw [hw] at hfits; exact hfits.1
  | resume _ => rw [hw] at hfits; exact hfits.1
  | _ => rw [hw] at hframe; cases hframe

/-- What the party outside comes to when it goes on with stopping. -/
structure Halted (ρ : Option TaskId) (e : Engine) : Prop where
  crew : Crew ρ (fun _ => True) e
  station : ∃ st, e.stations = [st]
  party : ∃ p ∈ e.tasks, p.id = outside
  failure : e.failure = none

lemma Halted.alterListener (h : Halted ρ e) {f : Listener → Listener}
    (hf : ∀ l, (f l).events = l.events) : Halted ρ (e.alterListener 0 f) :=
  ⟨h.crew.alterListener 0 hf, station_alterListener h.station f, h.party, h.failure⟩

lemma Halted.leaveSession (h : Halted ρ e) (hframes : ∀ t ∈ e.tasks, t.work.isFrame = false) :
    Winding (e.leaveSession 0) := by
  refine ⟨fun _ t ht hframe => ?_, by rintro f ⟨⟩, fun _ _ => ?_, rfl⟩
  · exact absurd hframe (Bool.eq_false_iff.1 (hframes t ht))
  · exact congrArg Listener.phase (listener_of_station h.station fun l => { l with
      hasSession := false, phase := .disconnected })

/-- The ends of tasks are told. -/
lemma foldl_enqueue (ids : List TaskId) (e : Engine) :
    ids.foldl (fun e i => e.enqueue (.gathered i)) e = { e with
      schedule := { e.schedule with queue := e.schedule.queue ++ ids.map .gathered } } := by
  induction ids generalizing e with
  | nil => rw [List.foldl_nil, List.map_nil, List.append_nil]
  | cons i ids ih =>
    rw [List.foldl_cons, ih, List.map_cons, enqueue, Schedule.enqueue, List.append_assoc]
    rfl

/-- The frames that the listener holds on to are waited for, which are all. -/
lemma Halted.drain (h : Halted ρ e) : Winding (e.drain 0) := by
  rw [Engine.drain]
  dsimp only
  split_ifs with hempty
  · refine h.leaveSession fun t ht => Bool.eq_false_iff.2 fun hframe => ?_
    have hheld := h.crew.held ht hframe
    rw [List.isEmpty_iff.1 hempty] at hheld
    cases hheld
  · rw [foldl_enqueue]
    refine ⟨fun _ t ht hframe => ?_, by rintro f ⟨⟩, by rintro _ ⟨⟩, h.failure⟩
    obtain ⟨hold, -⟩ | ⟨t₀, -, -, rfl⟩ := mem_alterTask ht
    · obtain ⟨p, hp, hid⟩ := h.party
      refine .inr (.inr ⟨rfl, { p with work := .outside, wait := .gathering (e.listener 0).events },
        List.mem_map.2 ⟨p, hp, if_pos hid⟩, hid, _, rfl, h.crew.held hold hframe⟩)
    · cases hframe

lemma Halted.socketClosed (h : Halted ρ e) {failure : Option Failure}
    (hmild : failure ≠ some .other) : Winding (e.socketClosed 0 failure) := by
  rw [Engine.socketClosed.eq_def]
  split
  · exact absurd rfl hmild
  · refine Halted.drain (h.alterListener fun _ => ?_)
    rfl

lemma failure_awaitTime (i : TaskId) (w : Work) (delay : Binary64) (e : Engine) :
    (e.awaitTime i w delay).failure = e.failure :=
  congrArg Helm.failure (helm_of_base (base_awaitTime i w delay e))

lemma Halted.closeSocket (h : Halted ρ e) : Winding (e.closeSocket 0) := by
  rw [Engine.closeSocket.eq_def]
  split
  · exact h.drain
  · rename_i socket _
    have hmild := h.crew.mild.close socket
    have hclosed : Halted ρ { e with feed := (e.feed.close socket).1 } :=
      ⟨h.crew.withFeed (h.crew.mild.alter (f := fun s => { s with closings := s.closings + 1 })
        (fun _ => rfl) _), h.station, h.party, h.failure⟩
    dsimp only
    split_ifs
    · exact hclosed.socketClosed hmild
    · refine ⟨fun _ _ _ _ => .inr (.inl ⟨_, rfl⟩), fun f hf => ?_, by rintro _ ⟨⟩, ?_⟩
      · obtain rfl : (e.feed.close socket).2 = f := Stopping.closing.inj (Option.some.inj hf)
        exact hmild
      · exact (failure_awaitTime _ _ _ _).trans h.failure

/-- Tasks are cancelled, and then the socket is closed. -/
lemma Halted.cancelNext (h : Halted ρ e) (ids : List TaskId) : Winding (e.cancelNext 0 ids) := by
  induction ids with
  | nil =>
    rw [Engine.cancelNext, closeAndDrain]
    refine Halted.closeSocket (h.alterListener fun _ => ?_)
    rfl
  | cons i ids ih =>
    rw [Engine.cancelNext]
    split_ifs
    · exact ⟨fun _ _ _ _ => .inl ⟨ids, rfl⟩, by rintro f ⟨⟩, by rintro _ ⟨⟩, h.failure⟩
    · exact ih

/-! ## What leaves frames waited for -/

namespace Winding

/-- Frames were frames before, and one that is waited for still is. -/
lemma keep (h : Winding e) (hrunning : (e'.listener 0).running = (e.listener 0).running)
    (hstopping : e'.stopping = e.stopping) (hfailure : e'.failure = e.failure)
    (hphase : (e.listener 0).running = false → e.stopping = none →
      (e'.listener 0).phase = (e.listener 0).phase)
    (hframes : (e.listener 0).running = false → ∀ f' ∈ e'.tasks, f'.work.isFrame = true →
      ∃ f ∈ e.tasks, f.id = f'.id ∧ f.work.isFrame = true)
    (hparty : (e.listener 0).running = false → ∀ f' ∈ e'.tasks, f'.work.isFrame = true →
      ∀ p ∈ e.tasks, p.id = outside → ∀ ids, p.wait = .gathering ids → f'.id ∈ ids →
        ∃ p' ∈ e'.tasks, p'.id = outside ∧ ∃ ids', p'.wait = .gathering ids' ∧ f'.id ∈ ids') :
    Winding e' := by
  refine ⟨fun hstopped f' hf' hframe => ?_, fun f hf => h.mild f (hstopping ▸ hf),
    fun hstopped hnone => ?_, hfailure.trans h.failure⟩
  · rw [hrunning] at hstopped
    obtain ⟨f, hf, hid, hframe₀⟩ := hframes hstopped f' hf' hframe
    rw [hstopping]
    refine (h.frames hstopped f hf hframe₀).imp_right fun hstage => hstage.imp_right ?_
    rintro ⟨hdraining, p, hp, hparty', ids, hwait, hmem⟩
    exact ⟨hdraining, hparty hstopped f' hf' hframe p hp hparty' ids hwait (hid ▸ hmem)⟩
  · rw [hrunning] at hstopped
    rw [hstopping] at hnone
    exact (hphase hstopped hnone).trans (h.phase hstopped hnone)

/-- Tasks are changed that stay frames or not, and the party outside still waits for frames. -/
lemma map (h : Winding e) {f : Task → Task} (htasks : e'.tasks = e.tasks.map f)
    (hlistener : e'.listener 0 = e.listener 0) (hstopping : e'.stopping = e.stopping)
    (hfailure : e'.failure = e.failure)
    (hf : ∀ t ∈ e.tasks, (f t).id = t.id ∧ (f t).work.isFrame = t.work.isFrame ∧
      ∀ ids, t.wait = .gathering ids → (f t).wait = .gathering ids) : Winding e' := by
  refine h.keep (by rw [hlistener]) hstopping hfailure (fun _ _ => by rw [hlistener])
    (fun _ t' ht' hframe => ?_) fun _ t' _ _ p hp hid ids hwait hmem => ?_
  · rw [htasks] at ht'
    obtain ⟨t, ht, rfl⟩ := List.mem_map.1 ht'
    obtain ⟨hid, hsame, -⟩ := hf t ht
    exact ⟨t, ht, hid.symm, hsame.symm.trans hframe⟩
  · obtain ⟨hsame, -, hwaits⟩ := hf p hp
    exact ⟨f p, htasks ▸ List.mem_map_of_mem hp, hsame.trans hid, ids, hwaits ids hwait, hmem⟩

lemma same (h : Winding e) (htasks : e'.tasks = e.tasks) (hlistener : e'.listener 0 = e.listener 0)
    (hstopping : e'.stopping = e.stopping) (hfailure : e'.failure = e.failure) : Winding e' :=
  h.map (f := id) (by rw [htasks, List.map_id]) hlistener hstopping hfailure
    fun _ _ => ⟨rfl, rfl, fun _ hwait => hwait⟩

/-- Tasks join the queue that do not wait for frames. -/
lemma wake (h : Winding e) {q : Task → Bool} (hq : ∀ t ids, t.wait = .gathering ids → q t = false) :
    Winding (e.wake q) := by
  refine h.map rfl rfl rfl rfl fun t _ => ?_
  cases hwakes : q t with
  | false => exact ⟨rfl, rfl, fun _ hwait => hwait⟩
  | true =>
    refine ⟨rfl, rfl, fun ids hwait => ?_⟩
    rw [hq t ids hwait] at hwakes
    cases hwakes

/-- Tasks join the queue that wait for something else. -/
lemma wakeWaiting (h : Winding e) {q : Task → Bool} (wait : Wait)
    (hwait : ∀ ids, wait ≠ .gathering ids) (hq : ∀ t, q t = true → t.wait = wait) :
    Winding (e.wake q) :=
  h.wake fun t ids hgathers => Bool.eq_false_iff.2 fun hwakes =>
    hwait ids ((hq t hwakes).symm.trans hgathers)

lemma goOff (h : Winding e) (a : Alarm) : Winding (e.goOff a) := by
  cases a with
  | ring i number =>
    exact h.wakeWaiting (.timer number) (by rintro ids ⟨⟩) fun t ht =>
      beq_iff_eq.1 (Bool.and_eq_true_iff.1 ht).2
  | release => exact h.wakeWaiting .release (by rintro ids ⟨⟩) fun t ht => beq_iff_eq.1 ht
  | request =>
    have hrequest : Winding { e with isRequested := true } := h.same rfl rfl rfl rfl
    exact hrequest.wakeWaiting .request (by rintro ids ⟨⟩) fun t ht => beq_iff_eq.1 ht

/-- A listener lets go of a frame. -/
lemma settled (h : Winding e) (k : Nat) (i : TaskId) : Winding (e.settled k i) := by
  have hphase : ((e.settled k i).listener 0).phase = (e.listener 0).phase := by
    obtain hl | hl := Quiet.listener_alterListener k (fun l =>
      { l with events := l.events.erase i }) e
    · rw [Engine.settled, hl]
    · rw [Engine.settled, hl]
  exact h.keep (Quiet.settled k i).running rfl rfl (fun _ _ => hphase)
    (fun _ f hf hframe => ⟨f, hf, rfl, hframe⟩)
    fun _ _ _ _ p hp hid ids hwait hmem => ⟨p, hp, hid, ids, hwait, hmem⟩

/-- A frame that is done is waited for no longer; the others are. -/
lemma gathered (h : Winding e) (hdone : ∀ t ∈ e.tasks, t.id ≠ i) : Winding (e.gathered i) := by
  have hback : ∀ t' ∈ (e.gathered i).tasks, ∃ t ∈ e.tasks, t.id = t'.id ∧ t.work = t'.work := by
    intro t' ht'
    obtain ⟨t₁, ht₁, hid, hwork, -⟩ := mem_wake ht'
    obtain ⟨t, ht, rfl⟩ := List.mem_map.1 ht₁
    exact ⟨t, ht, hid.symm, hwork.symm⟩
  refine h.keep rfl rfl rfl (fun _ _ => rfl) (fun _ f' hf' hframe => ?_)
    fun _ f' hf' hframe p hp hid ids hwait hmem => ?_
  · obtain ⟨f, hf, hid, hwork⟩ := hback f' hf'
    exact ⟨f, hf, hid, hwork ▸ hframe⟩
  · obtain ⟨f, hf, hidf, -⟩ := hback f' hf'
    have hleft : f'.id ∈ ids.erase i := (List.mem_erase_of_ne (hidf ▸ hdone f hf)).2 hmem
    have hwithout : ({ p with wait := p.wait.without i } : Task) ∈
        e.tasks.map fun (t : Task) => { t with wait := t.wait.without i } :=
      List.mem_map.2 ⟨p, hp, rfl⟩
    refine ⟨_, List.mem_map_of_mem hwithout, ?_⟩
    rw [hwait]
    split_ifs with hempty
    · have hnil : ids.erase i = [] := Wait.gathering.inj (beq_iff_eq.1 hempty)
      rw [hnil] at hleft
      cases hleft
    · exact ⟨hid, ids.erase i, rfl, hleft⟩

end Winding

/-! ## Handling a frame -/

lemma mem_progress {handle : Registry → Int → Nat → Pipeline → Pipeline × Progress}
    (ht : t ∈ (e.progress k i handle).tasks) :
    ∃ t₀ ∈ e.tasks, t₀.id = t.id ∧ (t.id = i ∨ t.work = t₀.work) := by
  have hfinish : ∀ e₁ : Engine, t ∈ (e₁.finishTask i).tasks →
      ∃ t₀ ∈ e₁.tasks, t₀.id = t.id ∧ (t.id = i ∨ t.work = t₀.work) := by
    intro e₁ ht
    obtain ⟨t₀, ht₀, hid, hwork, -⟩ := mem_finishTask ht
    exact ⟨t₀, ht₀, hid.symm, .inr hwork⟩
  rw [Engine.progress] at ht
  split at ht
  · exact hfinish e ht
  · generalize handle _ _ _ _ = r at ht
    obtain ⟨p, progress⟩ := r
    cases progress with
    | wait delay stage =>
      obtain ⟨hold, -⟩ | ⟨t₀, ht₀, hid₀, hid, -⟩ := mem_awaitTime ht
      · exact ⟨t, hold, rfl, .inr rfl⟩
      · exact ⟨t₀, ht₀, hid₀.trans hid.symm, .inl hid⟩
    | done handled =>
      dsimp only at ht
      split at ht
      all_goals
        rw [finishFrame] at ht
        split_ifs at ht
        · exact hfinish _ ht
        · exact hfinish _ ht

/-- Other tasks stay where they are, unless they wait for the end of the frame. -/
lemma mem_progress_of_ne {handle : Registry → Int → Nat → Pipeline → Pipeline × Progress}
    (ht : t ∈ e.tasks) (hne : t.id ≠ i) (hwait : t.wait ≠ .completion i) :
    t ∈ (e.progress k i handle).tasks := by
  have hfinish : ∀ e₁ : Engine, t ∈ e₁.tasks → t ∈ (e₁.finishTask i).tasks := by
    intro e₁ ht
    refine List.mem_map.2 ⟨t, List.mem_filter.2 ⟨ht, bne_iff_ne.2 hne⟩, if_neg ?_⟩
    exact fun hawaits => hwait (beq_iff_eq.1 hawaits)
  rw [Engine.progress]
  split
  · exact hfinish e ht
  · generalize handle _ _ _ _ = r
    obtain ⟨p, progress⟩ := r
    cases progress with
    | wait delay stage =>
      dsimp only
      rw [awaitTime]
      split_ifs
      · exact List.mem_map.2 ⟨t, ht, if_neg hne⟩
      · exact List.mem_map.2 ⟨t, ht, if_neg hne⟩
    | done handled =>
      dsimp only
      split
      all_goals
        rw [finishFrame]
        split_ifs
        · exact hfinish _ ht
        · exact hfinish _ ht

/-! ## Turns -/

namespace Tended

/-- While the listener does not run and no tasks are cancelled any more, there are frames at most
besides the party outside. -/
lemma party_or_frame (h : Tended ρ e) (hstopped : (e.listener 0).running = false)
    (hcancelling : ∀ rest, e.stopping ≠ some (.cancelling rest)) (ht : t ∈ e.tasks) :
    t.cancelled = false ∧ (t.work = .outside ∨ t.work.isFrame = true) := by
  have hgoing : t.cancelled = false := by
    refine Bool.eq_false_iff.2 fun hcancelled => ?_
    obtain ⟨⟨rest, hrest⟩, -⟩ := h.trail.stopped hstopped t ht hcancelled (by rintro ⟨⟩)
    exact hcancelling rest hrest
  have hduty := h.rest.orderly.duty_of_mem ht
  have hlink : ∀ l, t.work.duty ≠ .link l := by
    intro l hl
    rw [hl] at hduty
    obtain ⟨rest, hrest, -⟩ := h.rest.sound.halts.remaining t.id l hstopped hduty
    exact hcancelling rest hrest
  have hsilent := (h.pulse.silent hstopped t ht hgoing).1
  have hfits := h.crew.fits t ht
  rw [h.watched hstopped] at hfits
  refine ⟨hgoing, ?_⟩
  cases hw : t.work with
  | outside => exact .inl rfl
  | receive p => exact .inr rfl
  | resume s => exact .inr rfl
  | rest s => rw [hw] at hsilent; cases hsilent
  | beat s => rw [hw] at hsilent; cases hsilent
  | sent s failure => rw [hw] at hsilent; cases hsilent
  | idle => rw [hw] at hfits; cases hfits
  | refresh => rw [hw] at hfits; cases hfits
  | vigil => rw [hw] at hfits; cases hfits
  | _ => exact absurd (by rw [hw]; rfl) (hlink _)

/-- A turn of a task other than the party outside leaves frames waited for. -/
lemma winding_turn (h : Tended ρ e) (ht : t ∈ e.tasks)
    (hwork : t.cancelled = false → t.work ≠ .outside) :
    Winding (runTask t { e with schedule }) := by
  have hhelm := helm_runTask (t := t) (e := { e with schedule }) hwork
  have hstopping : (runTask t { e with schedule }).stopping = e.stopping :=
    congrArg Helm.stopping hhelm
  have hfailure : (runTask t { e with schedule }).failure = e.failure := congrArg Helm.failure hhelm
  by_cases hcancelling : ∃ rest, e.stopping = some (.cancelling rest)
  · obtain ⟨rest, hrest⟩ := hcancelling
    refine ⟨fun _ _ _ _ => .inl ⟨rest, hstopping.trans hrest⟩,
      fun f hf => h.winding.mild f (hstopping ▸ hf), fun _ hnone => ?_,
      hfailure.trans h.winding.failure⟩
    rw [hstopping, hrest] at hnone
    cases hnone
  -- where no tasks are cancelled any more, the task is a frame, which is handled
  have hframe : (e.listener 0).running = false → t.work.isFrame = true ∧ t.id ≠ outside ∧
      ∃ handle, runTask t { e with schedule } =
        Engine.progress 0 t.id handle { e with schedule } := by
    intro hstopped
    obtain ⟨hgoing, hout | hframe⟩ :=
      h.party_or_frame hstopped (fun rest hrest => hcancelling ⟨rest, hrest⟩) ht
    · exact absurd hout (hwork hgoing)
    have hduty := h.rest.orderly.duty_of_mem ht
    have hparty := h.rest.sound.slots.party
    rw [runTask, if_neg (Bool.eq_false_iff.1 hgoing), h.rest.orderly.home t ht]
    refine ⟨hframe, fun hid => ?_, ?_⟩
    · rw [hid, hparty] at hduty
      cases hw : t.work with
      | receive p => rw [hw] at hduty; cases hduty
      | resume s => rw [hw] at hduty; cases hduty
      | _ => rw [hw] at hframe; cases hframe
    · cases hw : t.work with
      | receive p => exact ⟨_, rfl⟩
      | resume s => exact ⟨_, rfl⟩
      | _ => rw [hw] at hframe; cases hframe
  refine h.winding.keep (running_of_helm hhelm 0) hstopping hfailure (fun hstopped hnone => ?_)
    (fun hstopped f' hf' hf'frame => ?_) fun hstopped f' _ _ p hp hparty ids hwait hmem => ?_
  · obtain hstage | ⟨f, hstage⟩ | ⟨hstage, -⟩ :=
      h.winding.frames hstopped t ht (hframe hstopped).1
    · exact absurd hstage hcancelling
    · cases hstage.symm.trans hnone
    · cases hstage.symm.trans hnone
  · obtain ⟨hframe, -, handle, hturn⟩ := hframe hstopped
    rw [hturn] at hf'
    obtain ⟨f, hf, hid, hsame | hwork'⟩ := mem_progress hf'
    · refine ⟨f, hf, hid, ?_⟩
      rw [List.inj_on_of_nodup_map h.rest.orderly.unique hf ht (hid.trans hsame)]
      exact hframe
    · exact ⟨f, hf, hid, hwork' ▸ hf'frame⟩
  · obtain ⟨-, hne, handle, hturn⟩ := hframe hstopped
    rw [hturn]
    refine ⟨p, mem_progress_of_ne hp (fun hid => hne (hid.symm.trans hparty)) ?_, hparty, ids, hwait,
      hmem⟩
    rw [hwait]
    rintro ⟨⟩

lemma ne_outside (h : Tended ρ e) : ρ ≠ some outside := by
  have hlive : e.isLive outside = true := by
    rw [isLive_eq, h.rest.sound.slots.party]
    rfl
  obtain ⟨p, hp⟩ := Option.isSome_iff_exists.1 hlive
  have hmem := mem_of_task? hp
  have hduty := h.rest.orderly.duty_of_mem hmem
  have hfits := h.crew.fits p hmem
  rw [id_of_task? hp, h.rest.sound.slots.party] at hduty
  rw [id_of_task? hp] at hfits
  cases hw : p.work with
  | outside => rw [hw] at hfits; exact hfits
  | _ => rw [hw] at hduty; cases hduty

/-- The first call is taken from the queue. -/
lemma crew_tail (h : Tended ρ e) (hqueue : e.schedule.queue = c :: schedule.queue) :
    Crew ρ (fun _ => True) { e with schedule } := by
  refine h.crew.same rfl rfl rfl rfl fun c' hc' _ => ?_
  rw [hqueue]
  exact List.mem_cons_of_mem _ hc'

/-- The party outside, when it goes on. -/
lemma halted (h : Tended ρ e) (hqueue : e.schedule.queue = c :: schedule.queue)
    (hp : p ∈ e.tasks) (hparty : p.id = outside) : Halted ρ { e with schedule } :=
  ⟨h.crew_tail hqueue, h.rest.orderly.station, ⟨p, hp, hparty⟩, h.winding.failure⟩

/-- The party outside goes on with stopping, or wakes up. -/
lemma turn_outside (h : Tended ρ e) (hqueue : e.schedule.queue = .turn t.id :: schedule.queue)
    (ht : t ∈ e.tasks) (hwait : t.wait = .turn) (hwork : t.work = .outside) :
    Winding (wakeOutside { e with schedule }) ∧
      Crew ρ (fun _ => True) (wakeOutside { e with schedule }) := by
  have hid : t.id = outside :=
    h.rest.sound.slots.parties t.id (by rw [h.rest.orderly.duty_of_mem ht, hwork]; rfl)
  have hρ := h.ne_outside
  have hcrew := h.crew_tail hqueue
  have hhalted := h.halted hqueue ht hid
  have hlast : e.stations.length - 1 = 0 := by
    obtain ⟨s, hs⟩ := h.rest.orderly.station
    rw [hs]
    rfl
  obtain hst | ⟨st, hst⟩ := Option.eq_none_or_eq_some e.stopping
  · rw [wakeOutside_awake (e := { e with schedule }) hst]
    exact ⟨h.winding.same rfl rfl rfl rfl, hcrew.same rfl rfl rfl rfl fun _ hc _ => hc⟩
  · have hstopped := (h.rest.stops hst).1
    cases st with
    | refresher => exact absurd rfl (h.rest.stops hst).2
    | cancelling ids =>
      rw [wakeOutside_cancelling (e := { e with schedule }) hst, hlast]
      exact ⟨hhalted.cancelNext ids, hcrew.cancelNext hρ fun _ _ => trivial⟩
    | closing failure =>
      rw [wakeOutside_closing (e := { e with schedule }) hst, hlast]
      exact ⟨hhalted.socketClosed (h.winding.mild failure hst), hcrew.socketClosed hρ failure⟩
    | draining =>
      rw [wakeOutside_draining (e := { e with schedule }) hst, hlast]
      refine ⟨hhalted.leaveSession fun f hf => Bool.eq_false_iff.2 fun hframe => ?_,
        hcrew.leaveSession⟩
      -- the party outside has its turn, so it waits for no frame
      obtain ⟨rest, hstage⟩ | ⟨f, hstage⟩ | ⟨-, p, hp, hparty, ids, hgathers, -⟩ :=
        h.winding.frames hstopped f hf hframe
      · cases hstage.symm.trans hst
      · cases hstage.symm.trans hst
      · rw [List.inj_on_of_nodup_map h.rest.orderly.unique hp ht (hparty.trans hid.symm),
          hwait] at hgathers
        cases hgathers

/-- A turn of a task. -/
lemma turn (h : Tended ρ e) (hqueue : e.schedule.queue = .turn t.id :: schedule.queue)
    (ht : t ∈ e.tasks) (hwait : t.wait = .turn) : Tended ρ (runTask t { e with schedule }) := by
  have hready := h.rest.readyFirst hqueue ht hwait
  have hplanned := h.rest.anyOrder schedule
  have hpulse : Pulse (runTask t { e with schedule }) :=
    (h.pulse.step (h.rest.anyOrder e.schedule) (.call (.plan schedule))).runTask hplanned ht
  have htrail := h.trail.turn h.rest h.pulse h.crew hqueue ht hwait
  by_cases hwork : t.cancelled = false ∧ t.work = .outside
  · obtain ⟨hwinding, hcrew⟩ := h.turn_outside hqueue ht hwait hwork.2
    have hrunning : (({ e with schedule } : Engine).wakeOutside.listener 0).running =
        (e.listener 0).running := (Quiet.wakeOutside fun st hst => hplanned.stops hst).running
    rw [runTask_outside hwork.1 hwork.2] at hpulse htrail ⊢
    refine ⟨hready.wakeOutside hwork.2, hpulse, hcrew, htrail, hwinding, fun hstopped => ?_⟩
    exact h.watched (hrunning.symm.trans hstopped)
  · have helse : t.cancelled = false → t.work ≠ .outside := fun hgoing hout => hwork ⟨hgoing, hout⟩
    have hhelm := helm_runTask (t := t) (e := { e with schedule }) helse
    refine ⟨hready.runTask, hpulse, (h.crew_tail hqueue).runTask hready helse
      (fun _ _ _ _ => .inl trivial) (fun _ _ => trivial), htrail, h.winding_turn ht helse,
      fun hstopped => h.watched ?_⟩
    exact (running_of_helm hhelm 0).symm.trans hstopped

/-! ## Calls -/

/-- What holds of a listener does not depend on a call that is nobody's turn. -/
lemma drop (h : Tended ρ e) (hqueue : turnsOf schedule.queue = turnsOf e.schedule.queue)
    (htold : ∀ c ∈ schedule.queue, c.told? ≠ none → c ∈ e.schedule.queue) :
    Tended ρ { e with schedule } :=
  ⟨⟨h.rest.orderly.same h.rest.orderly.station rfl rfl hqueue rfl, h.rest.sound⟩,
    h.pulse.step (h.rest.anyOrder e.schedule) (.call (.plan schedule)),
    h.crew.same rfl rfl rfl rfl htold, h.trail.drop hqueue, h.winding.same rfl rfl rfl rfl,
    h.watched⟩

lemma goOff (h : Tended ρ e) (a : Alarm) : Tended ρ (e.goOff a) := by
  refine ⟨h.rest.goOff a, h.pulse.make h.rest (.alarm a), ?_, ?_, h.winding.goOff a, ?_⟩
  · cases a with
    | ring i number => exact h.crew.wake _
    | release => exact h.crew.wake _
    | request =>
      have hrequest : Crew ρ (fun _ => True) { e with isRequested := true } :=
        h.crew.same rfl rfl rfl rfl fun _ hc _ => hc
      exact hrequest.wake _
  · cases a with
    | ring i number => exact h.trail.wake _
    | release => exact h.trail.wake _
    | request =>
      have hrequest : Trail none { e with isRequested := true } :=
        ⟨h.trail.running, h.trail.stopped⟩
      exact hrequest.wake _
  · cases a with
    | ring i number => exact h.watched
    | release => exact h.watched
    | request => exact h.watched

lemma settled (h : Tended ρ e) (hdone : ∀ t ∈ e.tasks, t.id ≠ i) (k : Nat) :
    Tended ρ (e.settled k i) := by
  have hrunning := (Quiet.settled k i (e := e)).running
  refine ⟨h.rest.settled k i, h.pulse.quiet (.settled k i), h.crew.settled hdone k, ?_,
    h.winding.settled k i, fun hstopped => h.watched (hrunning.symm.trans hstopped)⟩
  exact h.trail.same (f := id) List.prefix_rfl hrunning rfl (List.map_id _).symm fun _ _ =>
    ⟨rfl, rfl, id⟩

lemma gathered (h : Tended ρ e) (hdone : ∀ t ∈ e.tasks, t.id ≠ i) : Tended ρ (e.gathered i) := by
  have hwithout : Trail none { e with
      tasks := e.tasks.map fun (t : Task) => { t with wait := t.wait.without i } } :=
    h.trail.same List.prefix_rfl rfl rfl rfl fun _ _ => ⟨rfl, rfl, id⟩
  exact ⟨h.rest.gathered i, h.pulse.quiet (.gathered i), h.crew.gathered i, hwithout.wake _,
    h.winding.gathered hdone, h.watched⟩

/-- Calls in the order of the queue leave a listener tended. -/
theorem call (h : Tended ρ e) (hcall : InOrder e e') : Tended ρ e' := by
  cases hcall with
  | due alarms schedule hqueue =>
    refine h.drop ?_ fun c hc htold => ?_
    · rw [hqueue, turnsOf_append, turnsOf_alarms, List.append_nil]
    · rw [hqueue] at hc
      obtain hc | hc := List.mem_append.1 hc
      · exact hc
      · obtain ⟨a, -, rfl⟩ := List.mem_map.1 hc
        exact absurd rfl htold
  | call c schedule hqueue =>
    have hrest : c.turn? = none → Tended ρ { e with schedule } := by
      intro hc
      refine h.drop ?_ fun c' hc' _ => ?_
      · rw [hqueue, turnsOf, turnsOf, List.filterMap_cons_none hc]
      · rw [hqueue]
        exact List.mem_cons_of_mem _ hc'
    have hdone : ∀ i, c.told? = some i → ∀ t ∈ e.tasks, t.id ≠ i := fun i hi =>
      (h.crew.told c (by rw [hqueue]; exact List.mem_cons_self) i hi).1
    cases c with
    | turn i =>
      obtain ⟨t, ht, rfl, hwait⟩ := h.rest.head hqueue rfl
      have hmake : make (.turn t.id) { e with schedule } = runTask t { e with schedule } := by
        have htask : Engine.task? t.id { e with schedule } = some t :=
          h.rest.orderly.task?_of_mem ht
        rw [make]
        simp only [htask]
      rw [hmake]
      exact h.turn hqueue ht hwait
    | alarm a => exact (hrest rfl).goOff a
    | settled k i => exact (hrest rfl).settled (hdone i rfl) k
    | gathered i => exact (hrest rfl).gathered (hdone i rfl)

/-! ## What happens outside -/

/-- The party outside, while it is awake, does not stop the listener and waits for nothing. -/
lemma awake (h : Tended ρ e) (hawake : e.isAwake = true) (ht : t ∈ e.tasks) (hid : t.id = outside) :
    e.stopping = none ∧ t.work = .outside ∧ t.wait = .turn := by
  have hduty := h.rest.orderly.duty_of_mem ht
  rw [hid, h.rest.sound.slots.party] at hduty
  obtain ⟨p, hp, hparty, hwait⟩ := (h.rest.orderly.lined trivial).ready outside
    (List.mem_append_right _ (List.mem_append_left _ (by rw [hawake]; exact List.mem_cons_self)))
  refine ⟨?_, ?_, ?_⟩
  · by_contra hsome
    obtain ⟨st, hst⟩ := Option.ne_none_iff_exists'.1 hsome
    have hasleep : e.isAwake = false := (h.rest.sound.halts.stops st hst).2.1
    rw [hawake] at hasleep
    cases hasleep
  · cases hw : t.work with
    | outside => rfl
    | _ => rw [hw] at hduty; cases hduty
  · rw [List.inj_on_of_nodup_map h.rest.orderly.unique ht hp (hid.trans hparty.symm)]
    exact hwait

lemma sleep (h : Tended ρ e) (hawake : e.isAwake = true) (delay : Binary64) :
    Tended ρ { e.awaitTime outside .outside delay with isAwake := false } := by
  obtain ⟨f, htasks, hf⟩ : ∃ f : Task → Task,
      (e.awaitTime outside .outside delay).tasks = e.tasks.map f ∧ ∀ t, (f t).id = t.id ∧
        (f t).cancelled = t.cancelled ∧ (t.id ≠ outside → f t = t) ∧
          (t.id = outside → (f t).work = .outside) := by
    rw [awaitTime]
    split_ifs
    all_goals
      refine ⟨_, rfl, fun t => ?_⟩
      split_ifs with hid
      · exact ⟨rfl, rfl, fun hne => absurd hid hne, fun _ => rfl⟩
      · exact ⟨rfl, rfl, fun _ => rfl, fun hparty => absurd hparty hid⟩
  have htouches : Touched (fun _ => False) e _ := touches_awaitTime outside .outside delay e
  have hturns := htouches.turns
  have hhelm := helm_of_base (base_awaitTime outside .outside delay e)
  have hlistener := listener_awaitTime outside .outside delay e
  refine ⟨h.rest.sleep hawake delay, h.pulse.quiet (.sleep delay),
    (h.crew.awaitTime (w := .outside) (i := outside) h.ne_outside delay).same rfl rfl rfl rfl
      fun _ hc _ => hc,
    h.trail.same hturns (congrArg Listener.running hlistener) (congrArg Helm.stopping hhelm) htasks
      fun t ht => ⟨(hf t).1, (hf t).2.1, fun hpause => ?_⟩,
    h.winding.map htasks hlistener (congrArg Helm.stopping hhelm) (congrArg Helm.failure hhelm)
      fun t ht => ⟨(hf t).1, ?_, fun ids hgathers => ?_⟩,
    fun hstopped => h.watched ?_⟩
  · by_cases hid : t.id = outside
    · cases hpause.symm.trans (h.awake hawake ht hid).2.1
    · rw [(hf t).2.2.1 hid, hpause]
  · by_cases hid : t.id = outside
    · rw [(hf t).2.2.2 hid, (h.awake hawake ht hid).2.1]
    · rw [(hf t).2.2.1 hid]
  · by_cases hid : t.id = outside
    · cases hgathers.symm.trans (h.awake hawake ht hid).2.2
    · rw [(hf t).2.2.1 hid, hgathers]
  · exact (congrArg Listener.running hlistener).symm.trans hstopped

lemma arrive (h : Tended ρ e) (a : Arrival) : Tended ρ (e.arrive a) := by
  have hfeed : Crew ρ (fun _ => True) { e with feed := e.feed.arrive a } :=
    h.crew.withFeed (h.crew.mild.alter (f := fun s => { s with inbox := s.inbox ++ [a] })
      (fun _ => rfl) _)
  have htrail : Trail none { e with feed := e.feed.arrive a } := ⟨h.trail.running, h.trail.stopped⟩
  have hwinding : Winding { e with feed := e.feed.arrive a } := h.winding.same rfl rfl rfl rfl
  exact ⟨h.rest.arrive a, h.pulse.quiet (.arrive a), hfeed.wake _, htrail.wake _,
    hwinding.wakeWaiting (.arrival _) (by rintro ids ⟨⟩) fun t ht => beq_iff_eq.1 ht, h.watched⟩

lemma operate {α : Type} (h : Tended ρ e) (st : Station) (f : Session → Session × α) :
    Tended ρ (e.operate 0 st f).1 := by
  have hquiet := Quiet.operate 0 st f (e := e)
  have hlistener : (e.operate 0 st f).1.listener 0 = e.listener 0 := by
    obtain hl | ⟨st', hst', hl⟩ := Quiet.listener_alterStation 0
      (fun s => { s with registry := (f (e.session st)).1.registry })
      { e with disk := (f (e.session st)).1.disk, nextSerial := (f (e.session st)).1.nextSerial }
    · exact hl
    · refine Eq.trans hl ?_
      rw [listener, show e.stations[0]? = some st' from hst']
      rfl
  refine ⟨h.rest.operate st f, h.pulse.quiet hquiet, h.crew.operate 0 st f,
    h.trail.same List.prefix_rfl hquiet.running rfl rfl fun t _ => ?_,
    h.winding.map rfl hlistener rfl rfl fun t _ => ?_,
    fun hstopped => h.watched (hquiet.running.symm.trans hstopped)⟩
  · split
    next s hwork => exact ⟨rfl, rfl, fun hpause => by cases hwork.symm.trans hpause⟩
    next => exact ⟨rfl, rfl, id⟩
  · split
    next s hwork => exact ⟨rfl, by rw [hwork]; rfl, fun _ hwait => hwait⟩
    next => exact ⟨rfl, rfl, fun _ hwait => hwait⟩

/-- A look at the settings file leaves the tasks and the listener alone. -/
lemma refresh_same (hstation : ∃ st, e.stations = [st]) : e.refresh.1.tasks = e.tasks ∧
    e.refresh.1.schedule = e.schedule ∧ e.refresh.1.listener 0 = e.listener 0 := by
  obtain ⟨st, hst⟩ := hstation
  have hlistener : ∀ (k : Nat) (e₁ : Engine) (f : Station → Station),
      (∀ s, (f s).listener = s.listener) → (e₁.alterStation k f).listener 0 = e₁.listener 0 := by
    intro k e₁ f hf
    obtain hl | ⟨s, hs, hl⟩ := Quiet.listener_alterStation k f e₁
    · exact hl
    · rw [hl, hf, listener, hs]
      rfl
  rw [Engine.refresh]
  dsimp only
  split
  · split_ifs
    · exact ⟨rfl, rfl, rfl⟩
    · split
      · exact ⟨rfl, rfl, hlistener _ _ _ fun _ => rfl⟩
      · refine ⟨rfl, rfl, (hlistener _ _ _ fun s => ?_).trans (hlistener _ _ _ fun _ => rfl)⟩
        split
        · rfl
        · rfl
  · exact ⟨rfl, rfl, rfl⟩

lemma refresh (h : Tended ρ e) : Tended ρ e.refresh.1 := by
  obtain ⟨htasks, hschedule, hlistener⟩ := refresh_same h.rest.orderly.station
  have hhelm := helm_refresh e
  refine ⟨h.rest.refresh, h.pulse.quiet .refresh, h.crew.refresh,
    h.trail.same (f := id) (by rw [hschedule]) (congrArg Listener.running hlistener)
      (congrArg Helm.stopping hhelm) (by rw [htasks, List.map_id]) fun _ _ => ⟨rfl, rfl, id⟩,
    h.winding.same htasks hlistener (congrArg Helm.stopping hhelm) (congrArg Helm.failure hhelm),
    fun hstopped => h.watched ?_⟩
  exact (congrArg Listener.running hlistener).symm.trans hstopped

/-- The world changes; sockets still close, or fail to because the connection is lost. -/
lemma world (h : Tended ρ e) (feed : Feed) (network : Http.Network) (disk : Disk)
    (hclosings : feed.sockets.map Socket.closings = e.feed.sockets.map Socket.closings)
    (hread : feed.read = e.feed.read) (hmild : feed.ClosesMildly) :
    Tended ρ { e with feed, network, disk } := by
  have hcrew : Crew ρ (fun _ => True) { e with feed } := h.crew.withFeed hmild
  exact ⟨h.rest.step (fun _ _ h => h.inOrder) (.world e feed network disk hclosings hread),
    h.pulse.step (h.rest.anyOrder e.schedule) (.world e feed network disk hclosings hread),
    hcrew.same rfl rfl rfl rfl fun _ hc _ => hc, ⟨h.trail.running, h.trail.stopped⟩,
    h.winding.same rfl rfl rfl rfl, h.watched⟩

/-- Stopping begins once the look at the settings file is over. -/
lemma stopListening (h : Tended none e) (hawake : e.isAwake = true) :
    Tended none (e.stopListening 0) := by
  have hrest := h.rest.stopListening hawake
  have hpulse := h.pulse.stopListening h.rest
  have htrail := h.trail.stopListening h.rest h.crew h.ne_outside hawake
  refine ⟨hrest, hpulse, ?_, htrail, ?_, fun _ => rfl⟩
  · rw [Engine.stopListening]
    split_ifs
    · refine Crew.cancelNext (h.crew.alterListener 0 fun _ => ?_) h.ne_outside fun _ _ => trivial
      rfl
    · exact h.crew.same rfl rfl rfl rfl fun _ hc _ => hc
  · obtain ⟨p, hp, hparty, -⟩ := (h.rest.orderly.lined trivial).ready outside
      (List.mem_append_right _ (List.mem_append_left _ (by rw [hawake]; exact List.mem_cons_self)))
    rw [Engine.stopListening]
    split_ifs
    · have hhalted : Halted none e :=
        ⟨h.crew, h.rest.orderly.station, ⟨p, hp, hparty⟩, h.winding.failure⟩
      refine Halted.cancelNext (hhalted.alterListener fun _ => ?_) _
      rfl
    · exact h.winding.same rfl rfl (h.awake hawake hp hparty).1.symm h.winding.failure.symm

end Tended

end Engine

end FeedWatch
