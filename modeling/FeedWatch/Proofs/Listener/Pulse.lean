import FeedWatch.Proofs.Listener.Beats

/-!
# Heartbeats belong to the connection

There is at most one heartbeat for each socket, and one that is not cancelled is that of the
listener's connection; a listener that does not run has none, and makes no connection
(`Engine.Pulse`).  Every state of a run is so (`Reachable.pulse`).
-/

namespace FeedWatch

namespace Engine

/-- Each heartbeat has a socket, and no other one has it. -/
structure Sole (e : Engine) : Prop where
  below : ∀ t ∈ e.tasks, ∀ s, t.work.socket? = some s → s < e.feed.sockets.length
  single : ∀ t ∈ e.tasks, ∀ t' ∈ e.tasks, ∀ s,
    t.work.socket? = some s → t'.work.socket? = some s → t.id = t'.id

/-- No heartbeat goes on. -/
def Still (e : Engine) : Prop := ∀ t ∈ e.tasks, t.cancelled = false → t.work.socket? = none

/-- No heartbeat goes on, and no connection is being made. -/
def Silent (e : Engine) : Prop :=
  ∀ t ∈ e.tasks, t.cancelled = false → t.work.socket? = none ∧ t.work.dials = false

/-- A heartbeat that goes on is that of the connection, and only a listener that runs has one or is
about to connect. -/
structure Pulse (e : Engine) : Prop extends Sole e where
  current : ∀ t ∈ e.tasks, ∀ s, t.cancelled = false → t.work.socket? = some s →
    (e.listener 0).heartbeat = some t.id ∧ (e.listener 0).socket = some s ∧
      (e.listener 0).phase = .connected
  silent : (e.listener 0).running = false → e.Silent

variable {e e' : Engine} {s k : Nat} {i : TaskId} {t t' : Task} {w : Work} {fifo : Prop}
variable {a : Arrival} {c : Call}

/-! ## What keeps heartbeats in order -/

/-- A heartbeat that is new is the only one on a new socket. -/
lemma Sole.aside (h : Sole e) (haside : ∀ s, Aside s e e') : Sole e' := by
  refine ⟨fun t' ht' s hs => ?_, fun t₁ ht₁ t₂ ht₂ s hs₁ hs₂ => ?_⟩
  · obtain ⟨i, hbeats⟩ := (haside s).beats
    obtain ⟨t, ht, hcontinues⟩ | ⟨-, -, -, hlt⟩ := hbeats t' ht' hs
    · exact Nat.lt_of_lt_of_le (h.below t ht s (hcontinues.work ▸ hs)) (haside s).sockets
    · exact hlt
  · obtain ⟨i, hbeats⟩ := (haside s).beats
    obtain ⟨t, ht, hcontinues⟩ | ⟨hid, -, hnew, -⟩ := hbeats t₁ ht₁ hs₁
    · have hlt := h.below t ht s (hcontinues.work ▸ hs₁)
      obtain ⟨t', ht', hcontinues'⟩ | ⟨-, -, hnew, -⟩ := hbeats t₂ ht₂ hs₂
      · rw [hcontinues.id, hcontinues'.id]
        exact h.single t ht t' ht' s (hcontinues.work ▸ hs₁) (hcontinues'.work ▸ hs₂)
      · exact absurd hlt (Nat.not_lt.2 hnew)
    · obtain ⟨t', ht', hcontinues'⟩ | ⟨hid', -, -, -⟩ := hbeats t₂ ht₂ hs₂
      · exact absurd (h.below t' ht' s (hcontinues'.work ▸ hs₂)) (Nat.not_lt.2 hnew)
      · rw [hid, hid']

lemma Quiet.beats (h : Quiet e e') (s : Nat) :
    Inherits (·.socket? = some s) e.tasks e'.tasks := by
  intro t' ht' hs
  obtain ⟨i, hbeats⟩ := (h.aside s).beats
  obtain hold | ⟨-, -, hnew, hlt⟩ := hbeats t' ht' hs
  · exact hold
  · rw [h.sockets] at hlt
    exact absurd hlt (Nat.not_lt.2 hnew)

lemma Quiet.still (h : Quiet e e') (hstill : e.Still) : e'.Still := by
  intro t' ht' hgoing
  refine Option.eq_none_iff_forall_ne_some.2 fun s hs => ?_
  obtain ⟨t, ht, hcontinues⟩ := h.beats s t' ht' hs
  rw [hcontinues.work, hstill t ht (hcontinues.going hgoing).1] at hs
  cases hs

lemma Silent.still (h : e.Silent) : e.Still := fun t ht hgoing => (h t ht hgoing).1

lemma Quiet.silent (h : Quiet e e') (hrunning : (e.listener 0).running = false)
    (hsilent : e.Silent) : e'.Silent := by
  refine fun t' ht' hgoing => ⟨h.still hsilent.still t' ht' hgoing, ?_⟩
  cases hd : t'.work.dials with
  | false => rfl
  | true =>
    obtain ⟨t, ht, hcontinues⟩ := h.dials hrunning t' ht' hd
    rw [hcontinues.work, (hsilent t ht (hcontinues.going hgoing).1).2] at hd
    cases hd

lemma Pulse.of_still (h : Sole e) (hstill : e.Still)
    (hsilent : (e.listener 0).running = false → e.Silent) : Pulse e := by
  refine { h with current := fun t ht s hgoing hs => ?_, silent := hsilent }
  rw [hstill t ht hgoing] at hs
  cases hs

lemma Pulse.quiet (h : Pulse e) (hquiet : Quiet e e') : Pulse e' := by
  have hsole := h.toSole.aside hquiet.aside
  cases hrunning : (e.listener 0).running with
  | false =>
    have hsilent := hquiet.silent hrunning (h.silent hrunning)
    exact .of_still hsole hsilent.still fun _ => hsilent
  | true =>
    obtain ⟨hheartbeat, hsocket, hphase⟩ := hquiet.held hrunning
    refine { hsole with current := fun t' ht' s hgoing hs => ?_, silent := fun hstopped => ?_ }
    · obtain ⟨t, ht, hcontinues⟩ := hquiet.beats s t' ht' hs
      rw [hheartbeat, hsocket, hphase, hcontinues.id]
      exact h.current t ht s (hcontinues.going hgoing).1 (hcontinues.work ▸ hs)
    · rw [hquiet.running, hrunning] at hstopped
      cases hstopped

/-- Heartbeats go on with the same sockets. -/
lemma Pulse.of_moves (h : Pulse e) (hlistener : e'.listener 0 = e.listener 0)
    (hsockets : e'.feed.sockets.length = e.feed.sockets.length)
    (htasks : ∀ t' ∈ e'.tasks, ∃ t ∈ e.tasks, t'.id = t.id ∧
      t'.work.socket? = t.work.socket? ∧ t'.work.dials = t.work.dials ∧
      (t'.cancelled = false → t.cancelled = false)) : Pulse e' := by
  refine ⟨⟨fun t' ht' s hs => ?_, fun t₁ ht₁ t₂ ht₂ s hs₁ hs₂ => ?_⟩,
    fun t' ht' s hgoing hs => ?_, fun hrunning t' ht' hgoing => ?_⟩
  · obtain ⟨t, ht, -, hsocket, -, -⟩ := htasks t' ht'
    rw [hsockets]
    exact h.below t ht s (hsocket ▸ hs)
  · obtain ⟨t, ht, hid, hsocket, -, -⟩ := htasks t₁ ht₁
    obtain ⟨t', ht', hid', hsocket', -, -⟩ := htasks t₂ ht₂
    rw [hid, hid']
    exact h.single t ht t' ht' s (hsocket ▸ hs₁) (hsocket' ▸ hs₂)
  · obtain ⟨t, ht, hid, hsocket, -, hgoing'⟩ := htasks t' ht'
    rw [hlistener, hid]
    exact h.current t ht s (hgoing' hgoing) (hsocket ▸ hs)
  · obtain ⟨t, ht, -, hsocket, hdials, hgoing'⟩ := htasks t' ht'
    rw [hsocket, hdials]
    exact h.silent (hlistener ▸ hrunning) t ht (hgoing' hgoing)

/-! ## Connections are lost -/

/-- When the heartbeat of the connection is cancelled, none goes on. -/
lemma Pulse.dropHeartbeat (h : Pulse e) : (e.dropHeartbeat 0).Still := by
  intro t' ht' hgoing
  refine Option.eq_none_iff_forall_ne_some.2 fun s hs => ?_
  obtain ⟨hnone, hdrop⟩ | ⟨b, hb, hdrop⟩ := dropHeartbeat_cases 0 e
  · rw [hdrop] at ht'
    have hheld := (h.current t' ht' s hgoing hs).1
    rw [hnone] at hheld
    cases hheld
  · rw [hdrop] at ht'
    obtain ⟨t, ht, hid, hwork, hgoing'⟩ := mem_cancel ht'
    obtain ⟨hgoing, hne⟩ := hgoing' hgoing
    have hheld := (h.current t ht s hgoing (hwork ▸ hs)).1
    rw [hb, ← hid] at hheld
    exact hne (Option.some.inj hheld).symm

lemma Pulse.dropConnection (h : Pulse e) : Pulse (e.dropConnection 0) := by
  refine .of_still (h.toSole.aside fun s => .dropConnection 0) h.dropHeartbeat fun hstopped => ?_
  rw [Quiet.running_dropConnection] at hstopped
  exact (Quiet.dropHeartbeat 0).silent hstopped (h.silent hstopped)

lemma Pulse.disconnected (h : Pulse e) : Pulse (e.disconnected 0) := by
  rw [disconnected_eq]
  split_ifs
  · exact h.dropConnection.quiet (.scheduleReconnect 0)
  · exact h.dropConnection

lemma Pulse.closed (h : Pulse e) (i : TaskId) (failure : Option Failure) :
    Pulse (e.closed 0 i failure) := by
  rw [Engine.closed.eq_def]
  split
  · exact h.quiet (.finishTask i)
  · exact h.disconnected.quiet (.finishTask i)

lemma Pulse.endConnection (h : Pulse e) (i : TaskId) (socket : Nat) :
    Pulse (e.endConnection 0 i socket) := by
  have hclose : Pulse { e with feed := (e.feed.close socket).1 } := h.quiet (.close socket)
  rw [Engine.endConnection]
  split_ifs
  · exact hclose.closed i _
  · exact hclose.quiet (.awaitTime (w := .closed _) rfl rfl i _)

lemma Pulse.readFrom (h : Pulse e) (i : TaskId) (socket fuel : Nat) :
    Pulse (e.readFrom 0 i socket fuel) := by
  induction fuel generalizing e with
  | zero => exact h.quiet (.await (w := .read socket) rfl rfl i _)
  | succ fuel ih =>
    rw [Engine.readFrom]
    cases hnext : e.feed.next? socket with
    | none => exact h.quiet (.await (w := .read socket) rfl rfl i _)
    | some r =>
      obtain ⟨a, feed⟩ := r
      have hread := h.quiet (.next? hnext)
      cases a with
      | message m =>
        cases m with
        | frame p => exact ih (hread.quiet (.takeFrame 0 p))
        | error => exact hread.endConnection i socket
        | control => exact ih hread
      | ended => exact hread.endConnection i socket
      | failed f => exact hread.endConnection i socket

/-! ## Connections are made -/

lemma Orderly.duty_of_mem {busy : Option TaskId} (h : e.Orderly fifo busy) (ht : t ∈ e.tasks) :
    e.outline.duty t.id = some t.work.duty := by
  rw [outline_duty, h.task?_of_mem ht]
  rfl

/-- While a connection is being made, its task is the connection's, and the heartbeat is done. -/
lemma Rest.dials (h : Rest fifo e) (ht : t ∈ e.tasks) (hdials : t.work.dials = true) :
    (∃ l, e.outline.duty t.id = some (.link l) ∧ l ≠ .pausing) ∧
      ∀ b, (e.listener 0).heartbeat = some b → e.outline.duty b = none := by
  have hduty := h.orderly.duty_of_mem ht
  cases hwork : t.work with
  | connect =>
    rw [hwork] at hduty
    exact ⟨⟨.connecting, hduty, by nofun⟩, fun b => h.sound.phases.connecting t.id b hduty⟩
  | connected a =>
    rw [hwork] at hduty
    exact ⟨⟨.shaking, hduty, by nofun⟩, fun b => h.sound.phases.shaking t.id b hduty⟩
  | _ => rw [hwork] at hdials; cases hdials

lemma Pulse.still_of_dials (h : Pulse e) (hrest : Rest fifo e) (ht : t ∈ e.tasks)
    (hdials : t.work.dials = true) : e.Still := by
  intro t' ht' hgoing
  refine Option.eq_none_iff_forall_ne_some.2 fun s hs => ?_
  have hnone := (hrest.dials ht hdials).2 t'.id (h.current t' ht' s hgoing hs).1
  rw [hrest.orderly.duty_of_mem ht'] at hnone
  cases hnone

/-- The heartbeat that begins is that of the connection. -/
lemma Pulse.connected (h : Sole e) (hstill : e.Still) (hrunning : (e.listener 0).running = true)
    (hstation : ∃ st, e.stations = [st]) (i : TaskId) (a : Attempt) :
    Pulse (e.connected 0 i a) := by
  have hruns : ∀ {p : Prop}, (e.listener 0).running = false → p := by
    intro p hstopped
    rw [hrunning] at hstopped
    cases hstopped
  rw [Engine.connected]
  split
  · exact ((Pulse.of_still h hstill hruns).disconnected).quiet (.finishTask i)
  · have hlistener := listener_of_station (e := { e with feed := e.feed.accept a }) hstation
      fun l => { l with
        socket := some e.feed.sockets.length, phase := .connected, heartbeat := some e.nextTask }
    refine Pulse.readFrom ?_ i _ _
    refine { h.aside fun s => .establish 0 a _ with
      current := fun t ht s hgoing hs => ?_, silent := fun hstopped => ?_ }
    · obtain ht | ht := List.mem_append.1 ht
      · rw [hstill t ht hgoing] at hs
        cases hs
      · rw [List.mem_singleton.1 ht] at hs ⊢
        obtain rfl := Option.some.inj hs
        exact ⟨congrArg Listener.heartbeat hlistener, congrArg Listener.socket hlistener,
          congrArg Listener.phase hlistener⟩
    · exact hruns ((congrArg Listener.running hlistener).symm.trans hstopped)

lemma feed_awaitTime (i : TaskId) (w : Work) (delay : Binary64) (e : Engine) :
    (e.awaitTime i w delay).feed = e.feed := by
  rw [awaitTime]
  split_ifs
  · rfl
  · rfl

lemma listener_awaitTime (i : TaskId) (w : Work) (delay : Binary64) (e : Engine) :
    (e.awaitTime i w delay).listener 0 = e.listener 0 := by
  rw [awaitTime]
  split_ifs
  · rfl
  · rfl

/-- An attempt takes its time, or is over at once. -/
lemma Pulse.attempt (h : Sole e) (hstill : e.Still) (hrunning : (e.listener 0).running = true)
    (hstation : ∃ st, e.stations = [st]) (i : TaskId) (a : Attempt) :
    Pulse (if a.delay = 0 then e.connected 0 i a
      else e.awaitTime i (.connected a) (seconds a.delay)) := by
  split_ifs
  · exact .connected h hstill hrunning hstation i a
  · refine .of_still (h.aside fun s => .awaitTime (w := .connected a) (by rintro ⟨⟩) i _)
      (fun t ht hgoing => ?_) fun hstopped => ?_
    · obtain ⟨ht, -⟩ | ⟨-, -, -, -, hwork, -⟩ := mem_awaitTime ht
      · exact hstill t ht hgoing
      · rw [hwork]
        rfl
    · rw [listener_awaitTime, hrunning] at hstopped
      cases hstopped

lemma Pulse.connect (h : Sole e) (hstill : e.Still) (hrunning : (e.listener 0).running = true)
    (hstation : ∃ st, e.stations = [st]) (i : TaskId) : Pulse (e.connect 0 i) := by
  have hlistener := listener_of_station hstation fun l => { l with
    phase := .connecting, connectAttempts := l.connectAttempts + 1, hasSession := true }
  have hstation₁ : ∃ st, (e.alterListener 0 fun l => { l with
      phase := .connecting, connectAttempts := l.connectAttempts + 1
      hasSession := true }).stations = [st] := by
    obtain ⟨st, hst⟩ := hstation
    rw [alterListener, alterStation, hst]
    exact ⟨_, rfl⟩
  have hattempt : ∀ e₁ : Engine, e₁.tasks = e.tasks →
      e₁.feed.sockets.length = e.feed.sockets.length → (e₁.listener 0).running = true →
      (∃ st, e₁.stations = [st]) → Pulse (if (e.feed.attempt e.timing.feedUrl).2.delay = 0
        then e₁.connected 0 i (e.feed.attempt e.timing.feedUrl).2
        else e₁.awaitTime i (.connected (e.feed.attempt e.timing.feedUrl).2)
          (seconds (e.feed.attempt e.timing.feedUrl).2.delay)) := by
    intro e₁ htasks hsockets hrunning hstation
    refine .attempt ⟨?_, ?_⟩ ?_ hrunning hstation i _
    · rw [htasks, hsockets]
      exact h.below
    · rw [htasks]
      exact h.single
    · rw [Still, htasks]
      exact hstill
  exact hattempt _ rfl rfl ((congrArg Listener.running hlistener).trans hrunning) hstation₁

/-- A listener that does not run has no heartbeat when it is started. -/
lemma Pulse.startListener (h : Pulse e) (hstation : ∃ st, e.stations = [st]) :
    Pulse (e.startListener 0) := by
  rw [Engine.startListener]
  split_ifs with hrunning
  · exact h
  · have hsilent := h.silent (Bool.eq_false_iff.2 hrunning)
    have hlistener := listener_of_station hstation fun l =>
      { l with running := true, connection := some e.nextTask }
    refine .of_still (h.toSole.aside fun s => ?_) (fun t ht hgoing => ?_) fun hstopped => ?_
    · refine (Aside.alterListener 0 _).trans (.of_inherits (.concat (by rintro ⟨⟩) _) ?_ rfl rfl)
      exact .enqueue rfl
    · obtain ht | ht := List.mem_append.1 ht
      · exact (hsilent t ht hgoing).1
      · rw [List.mem_singleton.1 ht]
        rfl
    · cases (congrArg Listener.running hlistener).symm.trans hstopped

/-! ## Connections are stopped -/

/-- Of the tasks to be cancelled, the first one that is not done is cancelled at once. -/
lemma silent_cancelNext (hrunning : (e.listener 0).running = false) (rest : List TaskId)
    (hfirst : ∀ t ∈ e.tasks, t.cancelled = false →
      (t.work.socket? = none ∧ t.work.dials = false) ∨
        rest.find? (fun i => e.isLive i) = some t.id) : (e.cancelNext 0 rest).Silent := by
  induction rest with
  | nil =>
    refine (Quiet.closeAndDrain hrunning 0).silent hrunning fun t ht hgoing => ?_
    obtain hsilent | hfind := hfirst t ht hgoing
    · exact hsilent
    · cases hfind
  | cons j rest ih =>
    rw [Engine.cancelNext]
    split_ifs with hlive
    · have hawait : Quiet (e.cancel j) { (e.cancel j).outsideAwaits (.completion j) with
          stopping := some (.cancelling rest) } :=
        (Quiet.outsideAwaits _).trans (.same rfl (.refl _) rfl rfl rfl)
      refine hawait.silent hrunning fun t' ht' hgoing => ?_
      obtain ⟨t, ht, hid, hwork, hgoing'⟩ := mem_cancel ht'
      obtain ⟨hgoing, hne⟩ := hgoing' hgoing
      rw [hwork]
      obtain hsilent | hfind := hfirst t ht hgoing
      · exact hsilent
      · simp only [List.find?_cons, hlive] at hfind
        exact absurd (hid.trans (Option.some.inj hfind).symm) hne
    · refine ih fun t ht hgoing => (hfirst t ht hgoing).imp_right fun hfind => ?_
      simpa only [List.find?_cons, hlive] using hfind

/-- The heartbeat, or the task that makes a connection, is the first to be cancelled. -/
lemma Pulse.first (h : Pulse e) (hrest : Rest fifo e) (ht : t ∈ e.tasks)
    (hgoing : t.cancelled = false) : (t.work.socket? = none ∧ t.work.dials = false) ∨
      ([(e.listener 0).reconnect, (e.listener 0).heartbeat,
        (e.listener 0).connection].filterMap id).find? (fun i => e.isLive i) = some t.id := by
  obtain ⟨hslots, hphases, -, -, -, -⟩ := hrest.sound
  have hlive : e.isLive t.id = true := isLive_of_mem ht
  -- when nothing waits before a reconnect, that slot holds nothing that is not done
  have hpause : (∀ r, e.outline.duty r ≠ some (.link .pausing)) →
      ∀ r, (e.listener 0).reconnect = some r → e.isLive r = false := by
    intro hnone r hr
    rw [isLive_eq]
    cases hd : e.outline.duty r with
    | none => rfl
    | some d =>
      rw [hslots.pauses r d hr hd] at hd
      exact absurd hd (hnone r)
  cases hs : t.work.socket? with
  | some s =>
    have hheld : (e.listener 0).heartbeat = some t.id := (h.current t ht s hgoing hs).1
    have hdone := hpause fun r hr => by
      have hnone : (e.listener 0).heartbeat = none := (hphases.pausing r hr).2
      rw [hheld] at hnone
      cases hnone
    refine .inr ?_
    cases hr : (e.listener 0).reconnect with
    | none => simp [hheld, hlive]
    | some r => simp [hheld, hlive, hdone r hr]
  | none =>
    cases hd : t.work.dials with
    | false => exact .inl ⟨rfl, rfl⟩
    | true =>
      obtain ⟨⟨l, hlink, hl⟩, hdead⟩ := hrest.dials ht hd
      have hheld : (e.listener 0).connection = some t.id := hslots.connection t.id l hlink hl
      have hdone := hpause fun r hr => by
        obtain rfl := hslots.single r t.id _ _ hr hlink
        rw [hlink] at hr
        exact hl (Duty.link.inj (Option.some.inj hr))
      have hbeat : ∀ b, (e.listener 0).heartbeat = some b → e.isLive b = false := by
        intro b hb
        rw [isLive_eq, hdead b hb]
        rfl
      refine .inr ?_
      cases hr : (e.listener 0).reconnect with
      | none =>
        cases hb : (e.listener 0).heartbeat with
        | none => simp [hheld, hlive]
        | some b => simp [hheld, hlive, hbeat b hb]
      | some r =>
        cases hb : (e.listener 0).heartbeat with
        | none => simp [hheld, hlive, hdone r hr]
        | some b => simp [hheld, hlive, hdone r hr, hbeat b hb]

/-- When stopping begins, no heartbeat goes on any more. -/
lemma Pulse.stopListening (h : Pulse e) (hrest : Rest fifo e) : Pulse (e.stopListening 0) := by
  have hstation := hrest.orderly.station
  have hsole := h.toSole.aside fun s => Aside.stopListening (s := s) hstation
  rw [Engine.stopListening] at hsole ⊢
  split_ifs at hsole ⊢
  · have hsilent : Silent ((e.alterListener 0 fun l => { l with running := false }).cancelNext 0
        ([(e.listener 0).reconnect, (e.listener 0).heartbeat,
          (e.listener 0).connection].filterMap id)) := by
      refine silent_cancelNext ?_ _ fun t ht hgoing => h.first hrest ht hgoing
      exact congrArg Listener.running (listener_of_station hstation fun l =>
        { l with running := false })
    exact .of_still hsole hsilent.still fun _ => hsilent
  · exact h.quiet (.endStop none)

/-! ## Heartbeats go on -/

/-- A heartbeat goes on to something else on its socket. -/
lemma Pulse.awaitTime (h : Pulse e) (hunique : (e.tasks.map Task.id).Nodup) (ht : t ∈ e.tasks)
    (hs : t.work.socket? = some s) (hw : w.socket? = some s) (delay : Binary64) :
    Pulse (e.awaitTime t.id w delay) := by
  refine h.of_moves (listener_awaitTime _ _ _ _) (by rw [feed_awaitTime]) fun t' ht' => ?_
  obtain ⟨hold, -⟩ | ⟨t₀, ht₀, hid₀, hid, hwork, hcancelled, -⟩ := mem_awaitTime ht'
  · exact ⟨t', hold, rfl, rfl, rfl, id⟩
  · obtain rfl : t₀ = t := List.inj_on_of_nodup_map hunique ht₀ ht hid₀
    refine ⟨t₀, ht, hid, ?_, ?_, fun hgoing => hcancelled ▸ hgoing⟩
    · rw [hwork, hw, hs]
    · rw [hwork, Work.dials_eq_false hw, Work.dials_eq_false hs]

lemma Pulse.sent (h : Pulse e) (hunique : (e.tasks.map Task.id).Nodup) (ht : t ∈ e.tasks)
    (hs : t.work.socket? = some s) (failure : Option Failure) : Pulse (e.sent t.id s failure) := by
  rw [Engine.sent]
  split_ifs
  · exact h.quiet (.finishTask t.id)
  · exact h.awaitTime (w := .beat s) hunique ht hs rfl _

lemma Pulse.beat (h : Pulse e) (hunique : (e.tasks.map Task.id).Nodup) (ht : t ∈ e.tasks)
    (hs : t.work.socket? = some s) : Pulse (e.beat t.id s) := by
  have hsend : Pulse { e with feed := (e.feed.send s heartbeat).1 } :=
    h.of_moves rfl (Feed.length_send s heartbeat e.feed) fun t ht => ⟨t, ht, rfl, rfl, rfl, id⟩
  rw [Engine.beat]
  dsimp only
  split_ifs
  · exact hsend.sent hunique ht hs _
  · exact hsend.awaitTime (w := .sent s _) hunique ht hs rfl _

lemma Pulse.wake (h : Pulse e) (q : Task → Bool) : Pulse (e.wake q) := by
  refine h.of_moves rfl rfl fun t' ht' => ?_
  obtain ⟨t, ht, hid, hwork, hcancelled, -⟩ := mem_wake ht'
  exact ⟨t, ht, hid, hwork ▸ rfl, hwork ▸ rfl, fun hgoing => hcancelled ▸ hgoing⟩

/-! ## Turns -/

lemma Pulse.runTask (h : Pulse e) (hrest : Rest fifo e) (ht : t ∈ e.tasks) :
    Pulse (e.runTask t) := by
  have hstation := hrest.orderly.station
  have hunique := hrest.orderly.unique
  rw [Engine.runTask]
  split_ifs with hcancelled
  · have hend := h.quiet (.endCancelled t)
    dsimp only
    split
    · exact hend.quiet (.enqueue rfl)
    · exact hend
  · -- a connection is made only while the listener runs
    have hruns : t.work.dials = true → (e.listener 0).running = true := by
      intro hdials
      by_contra hstopped
      have hsilent := h.silent (Bool.eq_false_iff.2 hstopped) t ht (Bool.eq_false_iff.2 hcancelled)
      rw [hdials] at hsilent
      cases hsilent.2
    rw [hrest.orderly.home t ht]
    cases hwork : t.work with
    | outside => exact h.quiet (.wakeOutside fun st hst => hrest.stops hst)
    | connect =>
      have hdials : t.work.dials = true := by rw [hwork]; rfl
      exact .connect h.toSole (h.still_of_dials hrest ht hdials) (hruns hdials) hstation _
    | connected a =>
      have hdials : t.work.dials = true := by rw [hwork]; rfl
      exact .connected h.toSole (h.still_of_dials hrest ht hdials) (hruns hdials) hstation _ a
    | read socket => exact h.readFrom _ socket _
    | closed failure => exact h.closed _ failure
    | rest socket => exact h.awaitTime (w := .beat socket) hunique ht (by rw [hwork]; rfl) rfl _
    | beat socket => exact h.beat hunique ht (by rw [hwork]; rfl)
    | sent socket failure => exact h.sent hunique ht (by rw [hwork]; rfl) failure
    | pause =>
      dsimp only
      split
      · exact h.quiet (.awaitTime (w := .reconnect) rfl rfl _ _)
      · exact h.quiet (.finishTask _)
    | reconnect => exact h.quiet (.reconnect _)
    | receive p => exact h.quiet (.progress _ _ _)
    | resume stage => exact h.quiet (.progress _ _ _)
    | idle => exact h.quiet (.awaitTime (w := .refresh) rfl rfl _ _)
    | refresh => exact (h.quiet .refresh).quiet (.awaitTime (w := .refresh) rfl rfl _ _)
    | vigil => exact h.quiet (.watch _)

lemma Pulse.make (h : Pulse e) (hrest : Rest fifo e) (c : Call) : Pulse (e.make c) := by
  cases c with
  | turn i =>
    rw [Engine.make]
    cases ht : e.task? i with
    | none => exact h
    | some t => exact h.runTask hrest (mem_of_task? ht)
  | alarm a =>
    cases a with
    | ring i n => exact h.wake _
    | release => exact h.wake _
    | request => exact h.quiet .request
  | settled k i => exact h.quiet (.settled k i)
  | gathered i => exact h.quiet (.gathered i)

/-! ## Runs -/

lemma Pulse.step (h : Pulse e) (hrest : Rest False e) (hstep : Step InAnyOrder e e') :
    Pulse e' := by
  have hstation := hrest.orderly.station
  cases hstep with
  | call hcall =>
    cases hcall with
    | call c _ => exact h.make hrest c
    | plan s => exact ⟨⟨h.below, h.single⟩, h.current, h.silent⟩
  | start _ _ => exact h.startListener hstation
  | stop _ _ =>
    have hfailure : Pulse { e with failure := none } := ⟨⟨h.below, h.single⟩, h.current, h.silent⟩
    have hrest' : Rest False { e with failure := none } :=
      ⟨hrest.orderly.same hstation rfl rfl rfl rfl, hrest.sound⟩
    exact hfailure.stopListening hrest'
  | sleep _ _ delay => exact h.quiet (.sleep delay)
  | refresher => exact h.quiet (.startRefresher 0)
  | arrive _ a => exact h.quiet (.arrive a)
  | operate _ st f => exact h.quiet (.operate 0 st f)
  | world _ feed network disk hclosings _ =>
    have hsockets : feed.sockets.length = e.feed.sockets.length := by
      rw [← List.length_map Socket.closings, hclosings, List.length_map]
    exact h.of_moves rfl hsockets fun t ht => ⟨t, ht, rfl, rfl, rfl, id⟩

/-- In every state of a run heartbeats are those of the connection. -/
theorem Reachable.pulse (h : Reachable InAnyOrder e) : Pulse e := by
  obtain ⟨e₀, hfresh, hsteps⟩ := h
  induction hsteps with
  | refl =>
    obtain ⟨timing, epoch, store, disk, network, script, session, pipeline, -⟩ := hfresh
    refine .of_still ⟨fun t ht s hs => ?_, fun t ht t' ht' s hs => ?_⟩ (fun t ht _ => ?_)
      fun _ t ht _ => ?_
    all_goals rw [List.mem_singleton.1 ht] at *
    · cases hs
    · cases hs
    · rfl
    · exact ⟨rfl, rfl⟩
  | tail hsteps hstep ih => exact ih.step (Reachable.rest ⟨e₀, hfresh, hsteps⟩) hstep

end Engine

end FeedWatch
