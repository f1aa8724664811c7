import FeedWatch.Proofs.Listener.Intervals

/-!
# Heartbeats are sent on the current connection

Main statement: the listener sends nothing but the sentinel, and only while it is connected, on the
socket it holds; once it has left the connection, was stopped, or a text failed, nothing more is
sent on the socket; and if no timer goes off before it is due, as many intervals have passed since
the connection was made as texts were sent (`Engine.Reachable.heartbeats`).
-/

namespace FeedWatch

open Relation

/-- The socket on which sending starts. -/
def Work.sends? : Work → Option Nat
  | beat socket => some socket
  | _ => none

namespace Engine

/-- The socket on which a call starts to send. -/
def sends? (c : Call) (e : Engine) : Option Nat :=
  match c with
  | .turn i => (e.task? i).bind fun t => if t.cancelled then none else t.work.sends?
  | _ => none

/-- A call may be made: if it is a task's turn, the task does not wait for something else. -/
def IsReady (c : Call) (e : Engine) : Prop :=
  ∀ i, c = .turn i → ∃ t, e.task? i = some t ∧ t.wait = .turn

/-- Whatever happens from now on, no call starts to send on the socket. -/
def HasEnded (s : Nat) (e : Engine) : Prop :=
  ∀ e', ReflTransGen (Step InAnyOrder) e e' → ∀ c, e'.sends? c ≠ some s

/-- A run in time, in which at least so many calls start to send on the socket. -/
inductive Sending (s : Nat) (e₀ : Engine) : Nat → Engine → Prop
  | start : Sending s e₀ 0 e₀
  | step {k : Nat} {e e' : Engine} (h : Sending s e₀ k e) (hstep : Step InTime e e') :
    Sending s e₀ k e'
  | send {k : Nat} {e : Engine} {c : Call} (h : Sending s e₀ k e) (hready : e.IsReady c)
    (hsends : e.sends? c = some s) : Sending s e₀ (k + 1) (e.make c)

/-- A heartbeat on the socket does nothing any more but fail. -/
structure Over (s : Nat) (e : Engine) : Prop where
  below : s < e.feed.sockets.length
  failed : ∀ t ∈ e.tasks, t.cancelled = false → t.work.socket? = some s →
    ∃ f, t.work = .sent s (some f)

variable {e e' e₁ e₂ : Engine} {s k n : Nat} {i : TaskId} {t t' : Task} {w : Work} {fifo : Prop}
variable {sch sch' : Schedule} {interval since : Binary64} {c : Call}

/-! ## Calls in time -/

lemma IsReady.turn (ht : ∃ t, e.task? i = some t ∧ t.wait = .turn) : e.IsReady (.turn i) := by
  intro j hj
  cases hj
  exact ht

/-- The schedule plans nothing, and a task takes its turn. -/
lemma InTime.turn (h : e.IsReady (.turn i)) : InTime e (e.make (.turn i)) :=
  .call _ e.schedule (.refl _) h (by nofun)

/-- The clock moves, and a timer that is due by then goes off. -/
lemma InTime.goOff {later : Binary64} {timer : Timer} (hpasses : Passes e.schedule.now later)
    (htimer : timer ∈ e.schedule.timers) (hdue : IsDue later timer.due) :
    ∃ s : Schedule, InTime e { e with schedule := s } ∧
      InTime { e with schedule := s } ({ e with schedule := s }.make (.alarm timer.alarm)) := by
  refine ⟨{ e.schedule with now := later, queue := [.alarm timer.alarm] },
    .plan _ ⟨.single hpasses, rfl, fun _ => id, fun a ha => .inr ⟨timer, htimer, ?_, hdue⟩⟩,
    .call _ _ (.refl _) (by nofun) fun a _ => List.mem_singleton_self _⟩
  exact (Call.alarm.inj (List.mem_singleton.1 ha)).symm

/-! ## Calls that send -/

lemma sends?_eq_some : e.sends? c = some s ↔
    ∃ t, c = .turn t.id ∧ e.task? t.id = some t ∧ t.cancelled = false ∧ t.work = .beat s := by
  constructor
  · intro h
    cases c with
    | turn i =>
      obtain ⟨t, ht, hsends⟩ := Option.bind_eq_some_iff.1 h
      split_ifs at hsends with hcancelled
      obtain rfl := id_of_task? ht
      refine ⟨t, rfl, ht, Bool.eq_false_iff.2 hcancelled, ?_⟩
      cases hwork : t.work with
      | beat socket =>
        rw [hwork] at hsends
        rw [Option.some.inj hsends]
      | _ => rw [hwork] at hsends; cases hsends
    | _ => cases h
  · rintro ⟨t, rfl, ht, hgoing, hwork⟩
    rw [sends?]
    simp only [ht, Option.bind_some, hgoing, hwork]
    rfl

lemma make_turn (ht : e.task? t.id = some t) (hgoing : t.cancelled = false)
    (hwork : t.work = .beat s) : e.make (.turn t.id) = e.beat t.id s := by
  rw [make]
  simp only [ht]
  rw [runTask, if_neg (Bool.eq_false_iff.1 hgoing)]
  simp only [hwork]

lemma feed_sent (i : TaskId) (socket : Nat) (failure : Option Failure) (e : Engine) :
    (e.sent i socket failure).feed = e.feed := by
  rw [sent]
  split_ifs
  · rfl
  · exact feed_awaitTime _ _ _ e

/-- A heartbeat sends the sentinel, and nothing else. -/
lemma feed_beat (i : TaskId) (socket : Nat) (e : Engine) :
    (e.beat i socket).feed = (e.feed.send socket heartbeat).1 := by
  rw [beat]
  dsimp only
  split_ifs
  · exact feed_sent _ _ _ _
  · exact feed_awaitTime _ _ _ _

/-- What starts no send on a socket sends nothing on it. -/
lemma textsOn_make (hrest : Rest fifo e) (c : Call) (hs : e.sends? c ≠ some s) :
    (e.make c).feed.textsOn s = e.feed.textsOn s := by
  obtain haside | ⟨i, n, rfl⟩ | ⟨t, ht, rfl, hgoing, hsocket, hmake⟩ := make_cases hrest c s
  · exact haside.texts
  · rfl
  · rw [hmake, runTask, if_neg (Bool.eq_false_iff.1 hgoing)]
    cases hwork : t.work with
    | rest socket => exact congrArg (Feed.textsOn s) (feed_awaitTime _ _ _ e)
    | beat socket =>
      rw [hwork] at hsocket
      obtain rfl := Option.some.inj hsocket
      exact absurd (sends?_eq_some.2 ⟨t, rfl, hrest.orderly.task?_of_mem ht, hgoing, hwork⟩) hs
    | sent socket failure => exact congrArg (Feed.textsOn s) (feed_sent _ _ _ e)
    | _ => rw [hwork] at hsocket; cases hsocket

/-! ## The end of a heartbeat -/

lemma Over.aside (h : Over s e) (haside : Aside s e e') : Over s e' := by
  refine ⟨Nat.lt_of_lt_of_le h.below haside.sockets, fun t' ht' hgoing hs => ?_⟩
  obtain ⟨i, hbeats⟩ := haside.beats
  obtain ⟨t, ht, hcontinues⟩ | ⟨-, -, hnew, -⟩ := hbeats t' ht' hs
  · rw [hcontinues.work]
    exact h.failed t ht (hcontinues.going hgoing).1 (hcontinues.work ▸ hs)
  · exact absurd h.below (Nat.not_lt.2 hnew)

lemma Over.make (h : Over s e) (hrest : Rest fifo e) (c : Call) : Over s (e.make c) := by
  obtain haside | ⟨i, n, rfl⟩ | ⟨t, ht, rfl, hgoing, hsocket, hmake⟩ := make_cases hrest c s
  · exact h.aside haside
  · refine ⟨h.below, fun t' ht' hgoing hs => ?_⟩
    obtain ⟨t, ht, -, hwork, hcancelled, -⟩ := mem_wake ht'
    rw [hwork]
    exact h.failed t ht (hcancelled ▸ hgoing) (hwork ▸ hs)
  · obtain ⟨f, hwork⟩ := h.failed t ht hgoing hsocket
    rw [hmake, runTask, if_neg (Bool.eq_false_iff.1 hgoing), hwork]
    exact h.aside ((Quiet.finishTask t.id).aside s)

lemma Over.step (h : Over s e) (hrest : Rest False e) (hstep : Step InAnyOrder e e') :
    Over s e' := by
  obtain hcall | haside | ⟨feed, network, disk, hlength, rfl⟩ := hstep.cases_of_rest hrest s
  · cases hcall with
    | call c _ => exact h.make hrest c
    | plan s => exact ⟨h.below, h.failed⟩
  · exact h.aside haside
  · exact ⟨hlength.symm ▸ h.below, h.failed⟩

lemma Over.not_sends (h : Over s e) (c : Call) : e.sends? c ≠ some s := by
  intro hsends
  obtain ⟨t, rfl, ht, hgoing, hwork⟩ := sends?_eq_some.1 hsends
  obtain ⟨f, hfailed⟩ := h.failed t (mem_of_task? ht) hgoing (by rw [hwork]; rfl)
  rw [hwork] at hfailed
  cases hfailed

lemma Over.hasEnded (h : Over s e) (hreach : Reachable InAnyOrder e) : e.HasEnded s := by
  intro e' hsteps
  have hrun : Reachable InAnyOrder e' ∧ Over s e' := by
    induction hsteps with
    | refl => exact ⟨hreach, h⟩
    | tail _ hstep ih => exact ⟨ih.1.step hstep, ih.2.step ih.1.rest hstep⟩
  exact hrun.2.not_sends

/-- No heartbeat goes on but that of the connection. -/
lemma Pulse.over (h : Pulse e) (hs : s < e.feed.sockets.length)
    (hleft : (e.listener 0).phase ≠ .connected ∨ (e.listener 0).socket ≠ some s ∨
      (e.listener 0).running = false) : Over s e := by
  refine ⟨hs, fun t ht hgoing hsocket => ?_⟩
  obtain ⟨-, hheld, hphase⟩ := h.current t ht s hgoing hsocket
  obtain hleft | hleft | hleft := hleft
  · exact absurd hphase hleft
  · exact absurd hheld hleft
  · have hnone := (h.silent hleft t ht hgoing).1
    rw [hsocket] at hnone
    cases hnone

/-- A send that fails is the last. -/
lemma Pulse.over_of_failed (h : Pulse e) (hsends : e.sends? c = some s)
    (hfailed : (e.feed.send s heartbeat).2.isSome = true) : Over s (e.make c) := by
  obtain ⟨t, rfl, ht, hgoing, hwork⟩ := sends?_eq_some.1 hsends
  have hmem := mem_of_task? ht
  have hsocket : t.work.socket? = some s := by
    rw [hwork]
    rfl
  have hother : ∀ t' ∈ e.tasks, t'.id ≠ t.id → t'.work.socket? ≠ some s :=
    fun t' ht' hne hs => hne (h.single t' ht' t hmem s hs hsocket)
  rw [make_turn ht hgoing hwork]
  refine ⟨?_, fun t' ht' _ hs' => ?_⟩
  · rw [feed_beat, Feed.length_send]
    exact h.below t hmem s hsocket
  · rw [Engine.beat] at ht'
    dsimp only at ht'
    split_ifs at ht'
    · rw [Engine.sent, if_pos hfailed] at ht'
      obtain ⟨t₀, ht₀, hid, hwork₀, hne⟩ := mem_finishTask ht'
      exact absurd (hwork₀ ▸ hs') (hother t₀ ht₀ (hid ▸ hne))
    · obtain ⟨hold, hne⟩ | ⟨-, -, -, -, hwork', -⟩ := mem_awaitTime ht'
      · exact absurd hs' (hother t' hold hne)
      · obtain ⟨f, hf⟩ := Option.isSome_iff_exists.1 hfailed
        exact ⟨f, by rw [hwork', hf]⟩

/-! ## The pace of a connection -/

lemma Paced.step (h : Paced interval since s k e) (hreach : Reachable InTime e)
    (hstep : Step InTime e e') : Paced interval since s k e' := by
  have hany := hreach.anyOrder
  obtain hcall | haside | ⟨feed, network, disk, hlength, rfl⟩ := hstep.cases_of_rest hany.rest s
  · cases hcall with
    | plan sch hplan => exact h.follow hplan
    | call c sch hplan hturn halarm =>
      have hreach' := hreach.step (.call (.plan sch hplan))
      have hplanned := h.follow hplan
      have hsole := hreach'.anyOrder.pulse.toSole
      obtain haside | ⟨i, n, rfl⟩ | ⟨t, ht, rfl, hgoing, hsocket, hmake⟩ :=
        make_cases hreach'.anyOrder.rest c s
      · exact hplanned.aside haside
      · -- the timer that went off was due when it joined the queue
        refine hplanned.ring fun t ht hgoing hwork hid htimer => ?_
        obtain ⟨-, -, hrung⟩ := (h.tasks t ht hgoing (by rw [hwork]; rfl)).set s n hwork htimer
        exact (hrung (hid.symm ▸ halarm _ rfl)).forward hplan.clock
      · rw [hmake]
        exact hplanned.runTask hsole hreach'.numbered ht hgoing hsocket
          (hplanned.tasks t ht hgoing hsocket).passed
  · exact h.aside haside
  · exact ⟨h.timing, hlength.symm ▸ h.below, h.tasks⟩

/-- When the next text is sent, one more interval has passed. -/
lemma Paced.send (h : Paced interval since s k e) (hreach : Reachable InTime e)
    (hready : e.IsReady c) (hsends : e.sends? c = some s) :
    Elapsed interval since (k + 1) e.schedule.now ∧
      Paced interval since s (k + 1) (e.make c) := by
  obtain ⟨t, rfl, ht, hgoing, hwork⟩ := sends?_eq_some.1 hsends
  have hsocket : t.work.socket? = some s := by
    rw [hwork]
    rfl
  have hmem := mem_of_task? ht
  obtain ⟨t', ht', hturn⟩ := hready t.id rfl
  obtain rfl : t = t' := Option.some.inj (ht.symm.trans ht')
  have hpassed := (h.tasks t hmem hgoing hsocket).ready s hwork (by rw [hturn]; rfl)
  refine ⟨hpassed, ?_⟩
  have hmake : e.make (.turn t.id) = e.runTask t := by
    rw [make]
    simp only [ht]
  rw [hmake]
  exact h.runTask hreach.anyOrder.pulse.toSole hreach.numbered hmem hgoing hsocket hpassed

/-- When a socket is given, its heartbeat is about to wait. -/
lemma Step.begins (hstep : Step InTime e e') (hreach : Reachable InTime e)
    (hs : e.feed.sockets.length ≤ s) :
    ∀ t ∈ e'.tasks, t.work.socket? = some s → t.work = .rest s := by
  have hany := hreach.anyOrder
  have hnone : ∀ t ∈ e.tasks, t.work.socket? ≠ some s :=
    fun t ht hsocket => absurd (hany.pulse.below t ht s hsocket) (Nat.not_lt.2 hs)
  have haside : ∀ e₁ : Engine, e₁.tasks = e.tasks → Aside s e₁ e' →
      ∀ t ∈ e'.tasks, t.work.socket? = some s → t.work = .rest s := by
    intro e₁ htasks haside t' ht' hsocket
    obtain ⟨i, hbeats⟩ := haside.beats
    obtain ⟨t, ht, hcontinues⟩ | ⟨-, hwork, -, -⟩ := hbeats t' ht' hsocket
    · exact absurd (hcontinues.work ▸ hsocket) (hnone t (htasks ▸ ht))
    · exact hwork
  obtain hcall | h | ⟨feed, network, disk, -, rfl⟩ := hstep.cases_of_rest hany.rest s
  · cases hcall with
    | plan sch => exact fun t ht hsocket => absurd hsocket (hnone t ht)
    | call c sch hplan _ _ =>
      have hreach' := hreach.step (.call (.plan sch hplan))
      obtain h | ⟨i, n, rfl⟩ | ⟨t, ht, -, -, hsocket, -⟩ := make_cases hreach'.anyOrder.rest c s
      · exact haside { e with schedule := sch } rfl h
      · intro t' ht' hsocket
        obtain ⟨t, ht, -, hwork, -, -⟩ := mem_wake ht'
        exact absurd (hwork ▸ hsocket) (hnone t ht)
      · exact absurd hsocket (hnone t ht)
  · exact haside e rfl h
  · exact fun t ht hsocket => absurd hsocket (hnone t ht)

lemma Step.paced (hstep : Step InTime e e') (hreach : Reachable InTime e)
    (hs : e.feed.sockets.length ≤ s) (hs' : s < e'.feed.sockets.length) :
    Paced e'.timing.heartbeatInterval e'.schedule.now s 0 e' := by
  refine ⟨rfl, hs', fun t ht _ hsocket => ?_⟩
  have hwork := hstep.begins hreach hs t ht hsocket
  refine ⟨.start, fun socket hbeat => ?_, fun socket n hbeat => ?_⟩
  · rw [hwork] at hbeat
    cases hbeat
  · rw [hwork] at hbeat
    cases hbeat

lemma Sending.paced (h : Sending s e₁ k e) (hreach : Reachable InTime e₁)
    (hpaced : Paced interval since s 0 e₁) :
    Reachable InTime e ∧ Paced interval since s k e := by
  induction h with
  | start => exact ⟨hreach, hpaced⟩
  | step _ hstep ih => exact ⟨ih.1.step hstep, ih.2.step ih.1 hstep⟩
  | @send k e c _ hready hsends ih =>
    obtain ⟨t, rfl, -⟩ := sends?_eq_some.1 hsends
    exact ⟨ih.1.step (.call (.turn hready)), (ih.2.send ih.1 hready hsends).2⟩

/-! ## Every heartbeat -/

/-- Whatever happens and in whichever order: a socket has one heartbeat; where a call starts to
send, it sends the sentinel and nothing else, on the socket that the listener holds while it is
connected, and if the text fails it was the last; no other call sends anything; and nothing more is
sent on a socket once the listener is no longer connected with it, or was stopped.  If no timer goes
off before it is due, one interval more than texts were sent has passed since the socket was opened
when the next text is sent: as the clock reckons them one after the other, and by their values, each
but for the grain of the clock. -/
theorem Reachable.heartbeats (h : Reachable InAnyOrder e) :
    (∀ t ∈ e.tasks, ∀ t' ∈ e.tasks, ∀ s,
      t.work.socket? = some s → t'.work.socket? = some s → t = t') ∧
    (∀ c s, e.sends? c = some s → (e.make c).feed = (e.feed.send s heartbeat).1 ∧
      (e.listener 0).socket = some s ∧ (e.listener 0).phase = .connected ∧
      ((e.feed.send s heartbeat).2.isSome = true → e.IsReady c → (e.make c).HasEnded s)) ∧
    (∀ s, (∀ c, e.sends? c ≠ some s → (e.make c).feed.textsOn s = e.feed.textsOn s) ∧
      (e.startListener 0).feed.textsOn s = e.feed.textsOn s ∧
      (e.stopListening 0).feed.textsOn s = e.feed.textsOn s) ∧
    (∀ s < e.feed.sockets.length, (e.listener 0).phase ≠ .connected ∨
      (e.listener 0).socket ≠ some s ∨ (e.listener 0).running = false → e.HasEnded s) ∧
    (Reachable InTime e → ∀ e₁ s, Step InTime e e₁ → e.feed.sockets.length ≤ s →
      s < e₁.feed.sockets.length → ∀ k e₂ c, Sending s e₁ k e₂ → e₂.IsReady c →
      e₂.sends? c = some s →
        Elapsed e₁.timing.heartbeatInterval e₁.schedule.now (k + 1) e₂.schedule.now ∧
        (e₁.timing.heartbeatInterval.isFinite = true →
          e₁.schedule.now.value + (k + 1) * e₁.timing.heartbeatInterval.value ≤
            e₂.schedule.now.value + (k + 1) * Schedule.grain.value)) := by
  have hrest := h.rest
  have hpulse := h.pulse
  have hunique := hrest.orderly.unique
  refine ⟨fun t ht t' ht' s hs hs' => ?_, fun c s hsends => ?_, fun s => ⟨fun c hs => ?_, ?_, ?_⟩,
    fun s hs hleft => ?_, fun hreach e₁ s hstep hs hs' k e₂ c hsending hready hsends => ?_⟩
  · exact List.inj_on_of_nodup_map hunique ht ht' (hpulse.single t ht t' ht' s hs hs')
  · obtain ⟨t, rfl, ht, hgoing, hwork⟩ := sends?_eq_some.1 hsends
    have hsocket : t.work.socket? = some s := by
      rw [hwork]
      rfl
    obtain ⟨-, hheld, hphase⟩ := hpulse.current t (mem_of_task? ht) s hgoing hsocket
    refine ⟨?_, hheld, hphase, fun hfailed hready => ?_⟩
    · rw [make_turn ht hgoing hwork, feed_beat]
    · exact (hpulse.over_of_failed hsends hfailed).hasEnded
        (h.step (.call (.call _ hready)))
  · exact textsOn_make hrest c hs
  · exact (Aside.startListener 0).texts
  · exact (Aside.stopListening hrest.orderly.station).texts
  · exact (hpulse.over hs hleft).hasEnded h
  · have hreach₁ := hreach.step hstep
    obtain ⟨hreach₂, hpaced⟩ := hsending.paced hreach₁ (hstep.paced hreach hs hs')
    have helapsed := (hpaced.send hreach₂ hready hsends).1
    refine ⟨helapsed, fun hfinite => ?_⟩
    have hvalue := (helapsed.value_le hreach₁.clock.1 hreach₁.clock.2 hfinite).2.2
    exact_mod_cast hvalue

/-- A listener that was started, whose first socket takes no texts. -/
def startedDeaf : Engine :=
  startListener 0 ((start ⟨"", .finite false 30 0, none, .zero false⟩ 0 ⟨["settings"], ""⟩ .empty
    ⟨[], [], 0⟩ (.ofScript [{ Attempt.plain with sendFails := some .system }])).addStation
      ⟨⟨["settings"], ""⟩, .empty, .empty, ⟨⟨true, [], "", none⟩, []⟩, 0⟩
      (.start .standard .none (.scripted []) ⟨[], [], 0⟩))

/-- Thirty seconds after the connection the first heartbeat is sent; it fails, and is the last. -/
theorem Reachable.heartbeats_failing : ∃ e e₁ e₂ : Engine, Reachable InTime e ∧ Step InTime e e₁ ∧
    e.feed.sockets.length = 0 ∧ e₁.feed.sockets.length = 1 ∧ Sending 0 e₁ 0 e₂ ∧
    e₂.sends? (.turn 2) = some 0 ∧ (e₂.listener 0).phase = .connected ∧
    e₁.schedule.now.value + 30 ≤ e₂.schedule.now.value + Schedule.grain.value ∧
    (e₂.make (.turn 2)).HasEnded 0 := by
  have hreach : Reachable InTime startedDeaf :=
    .step ⟨_, .intro _ _ _ _ _ _ _ _ rfl, .refl⟩ (.start _ rfl)
  have hconnect : Step InTime startedDeaf (startedDeaf.make (.turn 1)) :=
    .call (.turn (.turn ⟨⟨1, 0, .connect, .turn, none, false⟩, rfl, rfl⟩))
  have hrest : Step InTime (startedDeaf.make (.turn 1))
      ((startedDeaf.make (.turn 1)).make (.turn 2)) :=
    .call (.turn (.turn ⟨⟨2, 0, .rest 0, .turn, none, false⟩, rfl, rfl⟩))
  -- thirty seconds, in seconds times a power of two
  obtain ⟨later, hpasses, hdue⟩ : ∃ later, Passes (.zero false) later ∧
      IsDue later ((Binary64.zero false).add (.finite false 30 0)) :=
    ⟨.finite false (30 * 2 ^ 48) (-48), ⟨by decide +kernel, rfl⟩, .inl (by decide +kernel)⟩
  generalize htime : (Binary64.zero false).add (.finite false 30 0) = time at hdue
  have htimer : ⟨0, time, .ring 2 0, false⟩ ∈
      ((startedDeaf.make (.turn 1)).make (.turn 2)).schedule.timers := by
    subst htime
    change _ ∈ Heap.push Timer.before _ #[]
    rw [Heap.push, Heap.rise]
    exact Array.mem_singleton.2 rfl
  obtain ⟨s, hplan, hring⟩ := InTime.goOff hpasses htimer hdue
  have hsending := (((Sending.start (s := 0)).step hrest).step (.call hplan)).step (.call hring)
  have hreach₂ := (((hreach.step hconnect).step hrest).step (.call hplan)).step (.call hring)
  have hall := Reachable.heartbeats hreach.anyOrder
  have hall₂ := Reachable.heartbeats hreach₂.anyOrder
  have hlast := hall₂.2.1 (.turn 2) 0 rfl
  have hlate := (hall.2.2.2.2 hreach _ 0 hconnect (Nat.le_refl 0) Nat.one_pos 0 _ (.turn 2) hsending
    (.turn ⟨⟨2, 0, .beat 0, .turn, some 0, false⟩, rfl, rfl⟩) rfl).2 rfl
  have hthirty : (Binary64.finite false 30 0).value = 30 := by norm_num [Binary64.value]
  refine ⟨_, _, _, hreach, hconnect, rfl, rfl, hsending, rfl, hlast.2.2.1, ?_,
    hlast.2.2.2 rfl (.turn ⟨⟨2, 0, .beat 0, .turn, some 0, false⟩, rfl, rfl⟩)⟩
  rw [Nat.cast_zero, zero_add, one_mul, one_mul] at hlate
  exact hthirty ▸ hlate

end Engine

end FeedWatch
