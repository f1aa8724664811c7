import FeedWatch.Proofs.Listener.Links

/-!
# A listener that runs connects again

A listener that was started and not stopped has a task of the connection (`Engine.Lasts`), whatever
fails and in whichever order calls are made, as long as a socket that fails to close does so because
the connection is lost.  Main statement: in every state of such a run the connection or a reconnect
is pending (`IsFresh.connection_or_reconnect`).  Where closing a socket fails for another reason,
that is the end of the connection, and nothing is pending any more (`Reachable.stranded`).
-/

namespace FeedWatch

namespace Engine

open Relation

/-- A listener that runs has a task of the connection. -/
def Lasts (e : Engine) : Prop := (e.listener 0).running = true → ∃ t, Steady t e

/-- What may happen while sockets are closed, or fail to close because the connection is lost. -/
def MildStep (next : Engine → Engine → Prop) (e e' : Engine) : Prop :=
  Step next e e' ∧ e'.feed.ClosesMildly

variable {e e' e₀ : Engine} {t : Task} {c : Call} {fifo : Prop} {i : TaskId} {k socket : Nat}

/-! ## Listeners that do not run -/

lemma running_disconnected (k : Nat) (e : Engine) :
    ((e.disconnected k).listener 0).running = (e.listener 0).running := by
  have hdrop := Quiet.running_dropConnection k e
  rw [disconnected_eq]
  split_ifs
  · exact (Quiet.scheduleReconnect k).running.trans hdrop
  · exact hdrop

lemma running_closed (k : Nat) (i : TaskId) (failure : Option Failure) (e : Engine) :
    ((e.closed k i failure).listener 0).running = (e.listener 0).running := by
  rw [closed.eq_def]
  split
  · exact (Quiet.finishTask i).running
  · exact (Quiet.finishTask i).running.trans (running_disconnected k e)

lemma running_endConnection (k : Nat) (i : TaskId) (socket : Nat) (e : Engine) :
    ((e.endConnection k i socket).listener 0).running = (e.listener 0).running := by
  rw [endConnection]
  dsimp only
  split_ifs
  · exact running_closed k i _ _
  · exact congrArg Listener.running (listener_awaitTime _ _ _ _)

lemma running_readFrom (k : Nat) (i : TaskId) (socket fuel : Nat) (e : Engine) :
    ((e.readFrom k i socket fuel).listener 0).running = (e.listener 0).running := by
  induction fuel generalizing e with
  | zero => rfl
  | succ fuel ih =>
    rw [readFrom]
    cases hnext : e.feed.next? socket with
    | none => rfl
    | some r =>
      obtain ⟨a, feed⟩ := r
      cases a with
      | message m =>
        cases m with
        | frame p => exact (ih _).trans (Quiet.takeFrame k p).running
        | error => exact running_endConnection k i socket _
        | control => exact ih _
      | ended => exact running_endConnection k i socket _
      | failed f => exact running_endConnection k i socket _

lemma running_sent (i : TaskId) (socket : Nat) (failure : Option Failure) (e : Engine) :
    ((e.sent i socket failure).listener 0).running = (e.listener 0).running := by
  rw [sent]
  split_ifs
  · rfl
  · exact congrArg Listener.running (listener_awaitTime _ _ _ _)

lemma running_beat (i : TaskId) (socket : Nat) (e : Engine) :
    ((e.beat i socket).listener 0).running = (e.listener 0).running := by
  rw [beat]
  dsimp only
  split_ifs
  · exact running_sent i socket _ _
  · exact congrArg Listener.running (listener_awaitTime _ _ _ _)

/-- No call starts a listener. -/
lemma stopped_make (h : Pulse e) (hrest : Rest fifo e)
    (hstopped : (e.listener 0).running = false) (c : Call) :
    ((e.make c).listener 0).running = false := by
  suffices hsame : ((e.make c).listener 0).running = (e.listener 0).running from
    hsame.trans hstopped
  cases c with
  | turn i =>
    rw [make]
    cases ht : e.task? i with
    | none => rfl
    | some t =>
      have hmem := mem_of_task? ht
      dsimp only
      rw [runTask]
      split_ifs with hcancelled
      · have hend := (Quiet.endCancelled t (e := e)).running
        dsimp only
        split
        · exact hend
        · exact hend
      · have hsilent := (h.silent hstopped t hmem (Bool.eq_false_iff.2 hcancelled)).2
        rw [hrest.orderly.home t hmem]
        cases hwork : t.work with
        | outside => exact (Quiet.wakeOutside fun st hst => hrest.stops hst).running
        | connect => rw [hwork] at hsilent; cases hsilent
        | connected a => rw [hwork] at hsilent; cases hsilent
        | read socket => exact running_readFrom _ _ _ _ e
        | closed failure => exact running_closed _ _ _ e
        | rest socket => exact congrArg Listener.running (listener_awaitTime _ _ _ _)
        | beat socket => exact running_beat _ socket e
        | sent socket failure => exact running_sent _ socket failure e
        | pause =>
          dsimp only
          split
          · exact congrArg Listener.running (listener_awaitTime _ _ _ _)
          · exact (Quiet.finishTask _).running
        | reconnect => exact (Quiet.reconnect _).running
        | receive p => exact (Quiet.progress _ _ _).running
        | resume stage => exact (Quiet.progress _ _ _).running
        | idle => exact congrArg Listener.running (listener_awaitTime _ _ _ _)
        | refresh =>
          exact (congrArg Listener.running (listener_awaitTime _ _ _ _)).trans Quiet.refresh.running
        | vigil => exact (Quiet.watch _).running
  | alarm a =>
    cases a with
    | ring i n => rfl
    | release => rfl
    | request => rfl
  | settled k i => exact (Quiet.settled k i).running
  | gathered i => exact (Quiet.gathered i).running

/-! ## Calls -/

/-- The task of the connection takes its turn. -/
lemma Steady.runTask (h : Steady t e) (hready : Ready fifo t e) (hmild : e.feed.ClosesMildly)
    (hdelay : e.timing.reconnectDelay ≠ none) : ∃ t', Steady t' (e.runTask t) := by
  obtain hopen | hwork | hwork := h.cases
  · obtain ⟨t', ht'⟩ := h.onward hready hmild hopen
    exact ⟨t', ht'.steady⟩
  · obtain ⟨delay, hdelay⟩ := Option.ne_none_iff_exists'.1 hdelay
    rw [h.pause hwork hdelay]
    obtain ⟨t', ht', hwork', -⟩ := h.toLinked.awaitTime (w := .reconnect) ⟨.pausing, rfl⟩ delay
    exact ⟨t', h.awaitTime hwork ht' hwork'⟩
  · rw [h.reconnect hready hwork]
    obtain ⟨t', ht', hlistener, -⟩ := dials_reconnect hready.orderly h.running
    exact ⟨t', ht'.steady (by rw [hlistener]; exact h.running)⟩

lemma Lasts.make (h : Lasts e) (hrest : Rest False e) (hpulse : Pulse e)
    (hmild : e.feed.ClosesMildly) (hdelay : e.timing.reconnectDelay ≠ none)
    (hturn : ∀ i, c = .turn i → ∃ t, e.task? i = some t ∧ t.wait = .turn) : Lasts (e.make c) := by
  intro hrunning'
  have hrunning : (e.listener 0).running = true := by
    by_contra hstopped
    rw [stopped_make hpulse hrest (Bool.eq_false_iff.2 hstopped) c] at hrunning'
    cases hrunning'
  obtain ⟨t, ht⟩ := h hrunning
  obtain ⟨rfl, hmake⟩ | ⟨n, rfl, hn⟩ | hapart := apart_make hrest hrunning ht.toLinked c
  · rw [hmake]
    obtain ⟨t', ht', hwait⟩ := hturn t.id rfl
    have htask := hrest.orderly.task?_of_mem ht.mem
    obtain rfl : t = t' := Option.some.inj (htask.symm.trans ht')
    exact ht.runTask (hrest.ready ht.mem hwait) hmild hdelay
  · exact ⟨_, (ht.ring hn).1⟩
  · obtain ⟨t', ht', -⟩ := ht.apart hapart
    exact ⟨t', ht'⟩

/-! ## Runs -/

/-- Stopping leaves no listener running. -/
lemma stopped_stopListening (hstation : ∃ st, e.stations = [st]) :
    ((e.stopListening 0).listener 0).running = false := by
  rw [stopListening]
  split_ifs with hrunning
  · have hstopped : ((e.alterListener 0 fun l => { l with running := false }).listener 0).running =
        false := congrArg Listener.running (listener_of_station hstation _)
    exact (Quiet.cancelNext hstopped 0 _).running.trans hstopped
  · exact Bool.eq_false_iff.2 hrunning

/-- The intervals stay what they are. -/
lemma Reachable.timing_step (h : Reachable InAnyOrder e) (hstep : Step InAnyOrder e e') :
    e'.timing = e.timing := by
  obtain hcall | haside | ⟨feed, network, disk, -, rfl⟩ := hstep.cases_of_rest h.rest 0
  · cases hcall with
    | plan s => rfl
    | call c _ =>
      obtain haside | ⟨i, n, rfl⟩ | ⟨t, ht, -, -, hs, -⟩ :=
        make_cases h.rest c e.feed.sockets.length
      · exact haside.timing
      · rfl
      · exact absurd (h.pulse.below t ht _ hs) (Nat.lt_irrefl _)
  · exact haside.timing
  · rfl

lemma Linked.ne_outside (h : Linked t e) (hrest : Rest fifo e) : t.id ≠ outside := by
  intro hid
  obtain ⟨l, hl⟩ := h.link
  have hduty := hrest.orderly.duty_of_mem h.mem
  rw [hid, hrest.sound.slots.party, hl] at hduty
  cases hduty

/-- Between the calls a listener that does not run is started, or does not run afterwards, or what
happens is apart from the task of the connection, or the world changes. -/
lemma Step.cases_of_linked {next : Engine → Engine → Prop} (hstep : Step next e e')
    (h : Rest fifo e) : next e e' ∨
      ((e.listener 0).running = false ∧ e' = e.startListener 0) ∨
      (e'.listener 0).running = false ∨
      ((e'.listener 0).running = (e.listener 0).running ∧ ∀ t, Linked t e → Apart t.id e e') ∨
      ∃ feed network disk, feed.read = e.feed.read ∧ e' = { e with feed, network, disk } := by
  have happens : (e'.listener 0).running = (e.listener 0).running →
      (∀ t, Linked t e → Apart t.id e e') →
      next e e' ∨ ((e.listener 0).running = false ∧ e' = e.startListener 0) ∨
        (e'.listener 0).running = false ∨
        ((e'.listener 0).running = (e.listener 0).running ∧ ∀ t, Linked t e → Apart t.id e e') ∨
        ∃ feed network disk, feed.read = e.feed.read ∧ e' = { e with feed, network, disk } :=
    fun hrunning hapart => .inr (.inr (.inr (.inl ⟨hrunning, hapart⟩)))
  cases hstep with
  | call hcall => exact .inl hcall
  | start _ _ =>
    by_cases hrunning : (e.listener 0).running = true
    · rw [startListener, if_pos hrunning] at happens ⊢
      exact happens rfl fun t _ => .refl e
    · exact .inr (.inl ⟨Bool.eq_false_iff.2 hrunning, rfl⟩)
  | stop _ _ => exact .inr (.inr (.inl (stopped_stopListening h.orderly.station)))
  | sleep _ _ delay =>
    exact happens (Quiet.sleep delay).running fun t ht => .sleep (ht.ne_outside h) delay
  | refresher => exact happens (Quiet.startRefresher 0).running fun _ _ => .startRefresher 0
  | arrive _ a => exact happens (Quiet.arrive a).running fun _ _ => .arrive a
  | operate _ st f => exact happens (Quiet.operate 0 st f).running fun _ _ => .operate 0 st f
  | world _ feed network disk _ hread =>
    exact .inr (.inr (.inr (.inr ⟨feed, network, disk, hread, rfl⟩)))

lemma Lasts.step (h : Lasts e) (hreach : Reachable InAnyOrder e) (hmild : e.feed.ClosesMildly)
    (hdelay : e.timing.reconnectDelay ≠ none) (hstep : Step InAnyOrder e e') : Lasts e' := by
  have hrest := hreach.rest
  obtain hcall | ⟨hstopped, rfl⟩ | hstopped | ⟨hsame, hapart⟩ | ⟨feed, network, disk, -, rfl⟩ :=
    hstep.cases_of_linked hrest
  · cases hcall with
    | plan s => exact fun hrunning => (h hrunning).imp fun t ht =>
        ⟨⟨ht.mem, ht.going, ht.link⟩, ht.running, ht.phase, ht.mild⟩
    | call c hturn => exact h.make hrest hreach.pulse hmild hdelay hturn
  · obtain ⟨t, ht, -⟩ := dials_startListener hrest.orderly.station hstopped
    exact fun hrunning => ⟨t, ht.steady hrunning⟩
  · intro hrunning
    rw [hstopped] at hrunning
    cases hrunning
  · intro hrunning
    obtain ⟨t, ht⟩ := h (hsame.symm.trans hrunning)
    obtain ⟨t', ht', -⟩ := ht.apart (hapart t ht.toLinked)
    exact ⟨t', ht'⟩
  · exact fun hrunning => (h hrunning).imp fun t ht =>
      ⟨⟨ht.mem, ht.going, ht.link⟩, ht.running, ht.phase, ht.mild⟩

/-- The task of the connection is held as such, or as the pause before a reconnect. -/
lemma Steady.held (h : Steady t e) (hrest : Rest fifo e) :
    e.isHeldLive (e.listener 0).connection = true ∨
      e.isHeldLive (e.listener 0).reconnect = true := by
  obtain ⟨l, hl⟩ := h.link
  have hduty : e.outline.duty t.id = some (.link l) := hl ▸ hrest.orderly.duty_of_mem h.mem
  have hlive : e.isLive t.id = true := isLive_of_mem h.mem
  by_cases hpausing : l = .pausing
  · subst hpausing
    have hheld : (e.listener 0).reconnect = some t.id := hrest.sound.slots.reconnect t.id hduty
    exact .inr (by rw [hheld]; exact hlive)
  · have hheld : (e.listener 0).connection = some t.id :=
      hrest.sound.slots.connection t.id l hduty hpausing
    exact .inl (by rw [hheld]; exact hlive)

/-- While closing a socket fails only because the connection is lost, whatever else fails and in
whichever order calls are made: in every state in which the listener was started and not stopped,
the task of its connection is not done, or a reconnect is pending. -/
theorem IsFresh.connection_or_reconnect (hfresh : IsFresh e₀) (hmild : e₀.feed.ClosesMildly)
    (hdelay : e₀.timing.reconnectDelay ≠ none) (hrun : ReflTransGen (MildStep InAnyOrder) e₀ e)
    (hrunning : (e.listener 0).running = true) :
    e.isHeldLive (e.listener 0).connection = true ∨
      e.isHeldLive (e.listener 0).reconnect = true := by
  have hlasts : Reachable InAnyOrder e ∧ e.feed.ClosesMildly ∧ e.timing = e₀.timing ∧ Lasts e := by
    clear hrunning
    induction hrun with
    | refl =>
      refine ⟨⟨e₀, hfresh, .refl⟩, hmild, rfl, fun hrunning => ?_⟩
      obtain ⟨⟩ := hfresh
      cases hrunning
    | tail _ hstep ih =>
      obtain ⟨hreach, hmild, htiming, hlasts⟩ := ih
      exact ⟨hreach.step hstep.1, hstep.2, (hreach.timing_step hstep.1).trans htiming,
        hlasts.step hreach hmild (htiming ▸ hdelay) hstep.1⟩
  obtain ⟨hreach, -, -, hlasts⟩ := hlasts
  obtain ⟨t, ht⟩ := hlasts hrunning
  exact ht.held hreach.rest

/-- A listener that was started, and whose first socket ends at once; closing it may fail. -/
def startedBriefly (closeFails : Option Failure) : Engine :=
  startListener 0 ((start .standard 0 ⟨["settings"], ""⟩ .empty ⟨[], [], 0⟩
    (.ofScript [{ Attempt.plain with closeFails, inbox := [.ended] }])).addStation
      ⟨⟨["settings"], ""⟩, .empty, .empty, ⟨⟨true, [], "", none⟩, []⟩, 0⟩
      (.start .standard .none (.scripted []) ⟨[], [], 0⟩))

/-- Closing the socket fails because the connection is lost, and a reconnect is pending. -/
theorem IsFresh.connection_or_reconnect_lost : ∃ e₀ e, IsFresh e₀ ∧ e₀.feed.ClosesMildly ∧
    e₀.timing.reconnectDelay ≠ none ∧ ReflTransGen (MildStep InAnyOrder) e₀ e ∧
    (e.listener 0).running = true ∧ e.isHeldLive (e.listener 0).connection = false ∧
    e.isHeldLive (e.listener 0).reconnect = true := by
  have hfresh := IsFresh.intro .standard 0 ⟨["settings"], ""⟩ .empty ⟨[], [], 0⟩
    [{ Attempt.plain with closeFails := some .system, inbox := [.ended] }]
    ⟨⟨["settings"], ""⟩, .empty, .empty, ⟨⟨true, [], "", none⟩, []⟩, 0⟩
    (.start .standard .none (.scripted []) ⟨[], [], 0⟩) rfl
  have hmild : ∀ feed : Feed, feed.sockets.map Socket.closeFails ⊆ [some .system] →
      feed.script.map Attempt.closeFails ⊆ [some .system] → feed.ClosesMildly := by
    refine fun feed hsockets hscript => ⟨fun s hs => ?_, fun a ha => ?_⟩
    · rw [List.mem_singleton.1 (hsockets (List.mem_map_of_mem hs))]
      nofun
    · rw [List.mem_singleton.1 (hscript (List.mem_map_of_mem ha))]
      nofun
  have hstart : MildStep InAnyOrder _ (startedBriefly (some .system)) :=
    ⟨.start _ rfl, hmild _ (by decide) (by decide)⟩
  have hconnect : MildStep InAnyOrder (startedBriefly (some .system))
      ((startedBriefly (some .system)).make (.turn 1)) :=
    ⟨.call (.call (.turn 1) fun i hi => by cases hi; exact ⟨_, rfl, rfl⟩),
      hmild _ (by decide) (by decide)⟩
  have hrun := (ReflTransGen.single hstart).tail hconnect
  have hheld := IsFresh.connection_or_reconnect hfresh (hmild _ (by decide) (by decide)) (by nofun)
    hrun rfl
  have hdone : ((startedBriefly (some .system)).make (.turn 1)).isHeldLive
      (((startedBriefly (some .system)).make (.turn 1)).listener 0).connection = false := rfl
  exact ⟨_, _, hfresh, hmild _ (by decide) (by decide), by nofun, hrun, rfl, hdone,
    hheld.resolve_left (by rw [hdone]; nofun)⟩

/-- Where closing a socket fails for another reason than a lost connection, the listener is left
running, as if it were connected, with no connection and no reconnect, and nothing is to come. -/
theorem Reachable.stranded : ∃ e, Reachable Scheduled e ∧ (e.listener 0).running = true ∧
    (e.listener 0).phase = .connected ∧ e.isHeldLive (e.listener 0).connection = false ∧
    e.isHeldLive (e.listener 0).reconnect = false := by
  have hfresh : Reachable Scheduled _ := ⟨_, .intro .standard 0 ⟨["settings"], ""⟩ .empty
    ⟨[], [], 0⟩ [{ Attempt.plain with closeFails := some .other, inbox := [.ended] }]
    ⟨⟨["settings"], ""⟩, .empty, .empty, ⟨⟨true, [], "", none⟩, []⟩, 0⟩
    (.start .standard .none (.scripted []) ⟨[], [], 0⟩) rfl, .refl⟩
  have hstart := hfresh.step (.start _ rfl)
  have hend := hstart.step (.call ⟨false, rfl⟩)
  exact ⟨_, hend, rfl, rfl, rfl, rfl⟩

end Engine

end FeedWatch
