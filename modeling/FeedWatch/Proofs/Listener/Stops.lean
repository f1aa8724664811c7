import FeedWatch.Proofs.Listener.Tasks

/-!
# What stopping does to the outline

The party outside stops the listener in stages, with waits between them.  While it has its turn,
`Stops` says that the engine is sound once the stage that is reached is noted.
-/

namespace FeedWatch

namespace Engine

/-- The party outside has its turn and has come to a stage of stopping. -/
structure Stops (fifo : Prop) (st : Stopping) (e : Engine) : Prop where
  orderly : Orderly fifo (some outside) { e with isAwake := false }
  sound : Outline.Sound fifo { e.outline with
    stopping := some st, awaited := none, isAwake := false }

variable {e : Engine} {fifo : Prop} {st st' : Stopping} {j : TaskId} {rest : List TaskId}

/-! ## The party outside waits -/

/-- While it is awake, the party outside has its turn. -/
lemma Rest.outsideTurn (h : Rest fifo e) (hawake : e.isAwake = true) :
    Orderly fifo (some outside) { e with isAwake := false } := by
  refine h.orderly.of_awake hawake ?_
  rw [isLive_eq, h.sound.slots.party]
  rfl

/-- The party outside waits for something other than a time. -/
lemma Orderly.outsideAwaits {stage : Option Stopping} {wait : Wait}
    (h : Orderly fifo (some outside) { e with isAwake := false }) (hwait : wait ≠ .turn)
    (hsound : Outline.Sound fifo { e.outline with
      stopping := stage, awaited := wait.completion?, isAwake := false }) :
    Rest fifo { e.outsideAwaits wait with stopping := stage } := by
  have hawait := h.await (w := .outside) rfl hwait
  refine ⟨hawait.same hawait.station rfl rfl rfl rfl, ?_⟩
  have hview := outline_alterOutside (c := wait.completion?)
    (f := fun t => { t with work := .outside, wait }) hsound.slots.party hsound.outside_notPending
    (fun _ => rfl) (fun _ => rfl) (fun _ => rfl) fun _ => rfl
  have hnoted : outline { e.outsideAwaits wait with stopping := stage } =
      { e.outline with
        stopping := stage, awaited := wait.completion?, isAwake := false } :=
    congrArg (fun o : Outline => { o with stopping := stage, isAwake := false }) hview
  rw [hnoted]
  exact hsound

lemma outline_outsideAwaitsTime (hparty : e.outline.duty outside = some .party)
    (hpending : ∀ q ∈ pendingOf e.tasks, q.1 ≠ outside) (delay : Binary64) :
    (e.awaitTime outside .outside delay).outline = { e.outline with awaited := none } := by
  rw [awaitTime]
  split_ifs
  · exact outline_alterOutside (f := fun t => { t with work := .outside, wait := .turn }) hparty
      hpending (fun _ => rfl) (fun _ => rfl) (fun _ => rfl) fun _ => rfl
  · exact outline_alterOutside (f := fun t => { t with
      work := .outside, wait := .timer e.schedule.nextTimer, timer := some e.schedule.nextTimer })
      hparty hpending (fun _ => rfl) (fun _ => rfl) (fun _ => rfl) fun _ => rfl

/-- The party outside waits for a time. -/
lemma Orderly.outsideAwaitsTime {stage : Option Stopping}
    (h : Orderly fifo (some outside) { e with isAwake := false }) (delay : Binary64)
    (hsound : Outline.Sound fifo { e.outline with
      stopping := stage, awaited := none, isAwake := false }) :
    Rest fifo { e.awaitTime outside .outside delay with
      isAwake := false, stopping := stage } := by
  have hawait := h.awaitTime (w := .outside) rfl delay
  refine ⟨?_, ?_⟩
  · rw [Engine.awaitTime] at hawait ⊢
    split_ifs at hawait ⊢
    · exact hawait.same hawait.station rfl rfl rfl rfl
    · exact hawait.same hawait.station rfl rfl rfl rfl
  · have hview := outline_outsideAwaitsTime hsound.slots.party hsound.outside_notPending delay
    have hnoted : outline { e.awaitTime outside .outside delay with
        isAwake := false, stopping := stage } = { e.outline with
          stopping := stage, awaited := none, isAwake := false } :=
      congrArg (fun o : Outline => { o with stopping := stage, isAwake := false }) hview
    rw [hnoted]
    exact hsound

/-! ## From stage to stage -/

lemma Stops.alterListener (h : Stops fifo st e) (g : Listener → Listener)
    (hsound : Outline.Sound fifo { e.outline with
      listener := g e.outline.listener
      stopping := some st', awaited := none, isAwake := false }) :
    Stops fifo st' (e.alterListener 0 g) := by
  refine ⟨h.orderly.alterListener g, ?_⟩
  have hview := outline_alterListener h.orderly g
  have hnoted : ({ (e.alterListener 0 g).outline with
      stopping := some st', awaited := none, isAwake := false } : Outline) =
      { e.outline with
        listener := g e.outline.listener
        stopping := some st', awaited := none, isAwake := false } :=
    congrArg (fun o : Outline => { o with stopping := some st', awaited := none }) hview
  rw [hnoted]
  exact hsound

lemma Stops.endStop (h : Stops fifo st e) (hst : ∀ rest, st ≠ .cancelling rest)
    (failure : Option Failure) : Rest fifo (e.endStop failure) := by
  have hawake := h.orderly.awaken h.sound.outside_notPending
  refine ⟨hawake.same hawake.station rfl rfl rfl rfl, ?_⟩
  exact h.sound.endStop (fun rest hrest => hst rest (Option.some.inj hrest)) e.outline.awaited

lemma Stops.leaveSession (h : Stops fifo .draining e) : Rest fifo (e.leaveSession 0) := by
  have hfeed : ∀ n, Stops fifo .draining
      { e with feed := { e.feed with sessionsClosed := e.feed.sessionsClosed + n } } :=
    fun n => ⟨h.orderly.same h.orderly.station rfl rfl rfl rfl, h.sound⟩
  rw [Engine.leaveSession]
  exact ((hfeed _).alterListener _ (h.sound.stopped rfl)).endStop (by nofun) none

/-- The frames in flight are waited for. -/
lemma Stops.drain (h : Stops fifo .draining e) : Rest fifo (e.drain 0) := by
  have henqueue : ∀ (ids : List TaskId) (e : Engine), Stops fifo .draining e →
      Stops fifo .draining (ids.foldl (fun e id => e.enqueue (.gathered id)) e) := by
    intro ids
    induction ids with
    | nil => exact fun _ h => h
    | cons id ids ih => exact fun e h => ih _ ⟨h.orderly.enqueue rfl, h.sound⟩
  rw [Engine.drain]
  dsimp only
  split_ifs
  · exact h.leaveSession
  · have hdrain := henqueue ((e.listener 0).events.filter fun id => !e.isLive id) e h
    exact hdrain.orderly.outsideAwaits (by nofun) hdrain.sound

lemma Stops.socketClosed {failure : Option Failure} (h : Stops fifo (.closing failure) e) :
    Rest fifo (e.socketClosed 0 failure) := by
  rw [Engine.socketClosed.eq_def]
  split
  · exact h.endStop (by nofun) _
  · exact (h.alterListener _ (h.sound.letGo rfl)).drain

/-- Once all tasks are done, the socket is closed, if there is one. -/
lemma Stops.closeSocket (h : Stops fifo (.cancelling []) e)
    (hidle : ∀ i l, e.outline.duty i ≠ some (.link l))
    (hheartbeat : e.outline.listener.heartbeat = none) : Rest fifo (e.closeSocket 0) := by
  rw [Engine.closeSocket.eq_def]
  split
  · rename_i hsocket
    have hclosed : ∀ s : Nat, e.outline.closings[s]? ≠ some 0 := by
      intro s hs
      have hheld : e.outline.listener.socket = some s := h.sound.sockets.held s hs
      rw [outline, hsocket] at hheld
      cases hheld
    have hnone : { e.outline.listener with socket := none } = e.outline.listener :=
      congrArg (fun socket => { e.outline.listener with socket }) hsocket.symm
    have hdrain : Outline.Sound fifo { e.outline with
        listener := { e.outline.listener with socket := none }
        stopping := some .draining, awaited := none, isAwake := false } :=
      (h.sound.closeSocket rfl hidle hheartbeat _ rfl hclosed none).letGo rfl
    rw [hnone] at hdrain
    exact Stops.drain ⟨h.orderly, hdrain⟩
  · rename_i socket hsocket
    have hclosings : (e.feed.close socket).1.sockets.map Socket.closings =
        e.outline.closings.modify socket (· + 1) :=
      map_alter (k := Socket.closings) (fun _ => rfl) socket e.feed
    have hclosed := closed_of_modify (s := socket) fun s hs => by
      have hheld : e.outline.listener.socket = some s := h.sound.sockets.held s hs
      rw [outline, hsocket] at hheld
      exact (Option.some.inj hheld).symm
    have hstops : Stops fifo (.closing (e.feed.close socket).2)
        { e with feed := (e.feed.close socket).1 } := by
      refine ⟨h.orderly.same h.orderly.station rfl rfl rfl rfl, ?_⟩
      have hview : outline { e with feed := (e.feed.close socket).1 } =
          { e.outline with closings := e.outline.closings.modify socket (· + 1) } := by
        rw [outline, hclosings]
        rfl
      rw [hview]
      exact h.sound.closeSocket rfl hidle hheartbeat _ (List.length_modify _ _ _) hclosed _
    dsimp only
    split_ifs
    · exact hstops.socketClosed
    · exact hstops.orderly.outsideAwaitsTime _ hstops.sound

/-- The slots are emptied. -/
lemma Stops.closeAndDrain (h : Stops fifo (.cancelling []) e) : Rest fifo (e.closeAndDrain 0) := by
  obtain ⟨hsound, hidle⟩ := h.sound.release rfl rfl
  have hstops := h.alterListener (fun l => { l with
    reconnect := none, heartbeat := none, connection := none }) hsound
  have hview := outline_alterListener h.orderly fun l => { l with
    reconnect := none, heartbeat := none, connection := none }
  exact hstops.closeSocket hidle (congrArg (·.listener.heartbeat) hview)

/-- Tasks are cancelled, each once the one before it is done. -/
lemma Stops.cancelNext (h : Stops fifo (.cancelling rest) e) : Rest fifo (e.cancelNext 0 rest) := by
  induction rest with
  | nil => exact h.closeAndDrain
  | cons j rest ih =>
    rw [Engine.cancelNext]
    split_ifs with hlive
    · obtain ⟨d, hd⟩ := Option.isSome_iff_exists.1 (isLive_eq e j ▸ hlive)
      have hj : j ≠ outside := by
        rintro rfl
        have hparty : d = .party := Option.some.inj (hd.symm.trans h.sound.slots.party)
        obtain hbeat | ⟨l, hlink⟩ := h.sound.halts.listed _ outside d rfl List.mem_cons_self hd
        · rw [hparty] at hbeat
          cases hbeat
        · rw [hparty] at hlink
          cases hlink
      have hview := outline_cancel (e := e) hj
      have hsound : Outline.Sound fifo { (e.cancel j).outline with
          stopping := some (.cancelling rest), awaited := some j, isAwake := false } := by
        rw [hview]
        exact h.sound.cancelNext rfl rfl hd
      exact (h.orderly.cancel j).outsideAwaits (nofun : Wait.completion j ≠ .turn) hsound
    · refine ih ⟨h.orderly, ?_⟩
      refine h.sound.skip rfl ?_
      rw [isLive_eq, Bool.not_eq_true, Option.isSome_eq_false_iff,
        Option.isNone_iff_eq_none] at hlive
      exact hlive

/-- Stopping begins, if the listener is running. -/
lemma Rest.stopListening (h : Rest fifo e) (hawake : e.isAwake = true) :
    Rest fifo (e.stopListening 0) := by
  have houtside := h.outsideTurn hawake
  have hview := outline_alterListener h.orderly fun l => { l with running := false }
  rw [Engine.stopListening]
  split_ifs with hrunning
  · refine Stops.cancelNext ⟨houtside.alterListener fun l => { l with running := false }, ?_⟩
    rw [hview]
    exact h.sound.stop hawake
  · refine ⟨h.orderly.same h.orderly.station rfl rfl rfl hawake.symm, ?_⟩
    refine h.sound.endStop (fun rest hrest => ?_) e.outline.awaited
    exact absurd hawake (Bool.eq_false_iff.1 (h.sound.halts.stops _ hrest).2.1)

end Engine

end FeedWatch
