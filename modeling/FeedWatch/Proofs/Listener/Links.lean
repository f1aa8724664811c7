import FeedWatch.Proofs.Listener.Apart

/-!
# The connection goes on

A turn of the task of the connection ends with a task of the connection: the attempt is pending, the
socket is read or being closed, or a pause begins.  `Engine.Onward` says where it comes to, and
balances the books: an attempt that is made is lost or still there, and what is lost has a reconnect
scheduled or is still being closed.  There is one lemma for each function that ends such a turn.
Main statement: as long as sockets are closed or fail to close because the connection is lost, the
task of the connection goes on (`Engine.Ready.onward`).
-/

namespace FeedWatch

/-- Whether an attempt is about to be made or is not lost. -/
def Work.ahead : Work → Nat
  | connect | connected _ | read _ => 1
  | _ => 0

/-- Whether a connection was lost for which no reconnect is scheduled yet. -/
def Work.owes : Work → Nat
  | closed _ => 1
  | _ => 0

/-- Whether an attempt is being made that `ahead` counts. -/
def Work.calls : Work → Nat
  | connect => 1
  | _ => 0

/-- A socket that is being closed, or may come to be, closes or fails because the connection is
lost. -/
def Work.ClosesMildly : Work → Prop
  | connected a => a.closeFails ≠ some .other
  | closed failure => failure ≠ some .other
  | _ => True

/-- The attempt that is over at the end of a turn, if one is. -/
def Work.over? (feed : Feed) : Work → Option Attempt
  | connect =>
    let a := feed.script.headD .plain
    if a.delay = 0 then some a else none
  | connected a => some a
  | _ => none

/-- How many handshakes fail in a turn. -/
def Work.failures (feed : Feed) (w : Work) : Nat := ((w.over? feed).any (·.fails.isSome)).toNat

/-- The phase that goes with what the task of the connection does next. -/
def Work.phase? : Work → Option Phase
  | connected _ => some .connecting
  | read _ | closed _ => some .connected
  | pause | reconnect => some .disconnected
  | _ => none

/-- Whatever is to be done, an attempt that is about to be made is one that is not lost, and there
is at most one attempt or loss besides. -/
lemma Work.calls_le (w : Work) : w.calls ≤ w.ahead ∧ w.owes + w.ahead ≤ w.calls + 1 := by
  cases w with
  | _ => exact ⟨Nat.le_of_ble_eq_true rfl, Nat.le_of_ble_eq_true rfl⟩

namespace Feed

/-- How many connections ended. -/
def losses (feed : Feed) : Nat := feed.read.countP (·.2.ends)

/-- Sockets are closed, or closing them fails because the connection is lost. -/
structure ClosesMildly (feed : Feed) : Prop where
  sockets : ∀ s ∈ feed.sockets, s.closeFails ≠ some .other
  script : ∀ a ∈ feed.script, a.closeFails ≠ some .other

lemma ClosesMildly.alter {feed : Feed} (h : feed.ClosesMildly) {f : Socket → Socket}
    (hf : ∀ s, (f s).closeFails = s.closeFails) (socket : Nat) :
    (feed.alter socket f).ClosesMildly := by
  refine ⟨fun s hs => ?_, h.script⟩
  obtain ⟨n, hn⟩ := List.mem_iff_getElem?.1 hs
  rw [Feed.alter, List.getElem?_modify] at hn
  obtain ⟨s₀, hs₀, rfl⟩ := Option.map_eq_some_iff.1 hn
  have hmild := h.sockets s₀ (List.mem_of_getElem? hs₀)
  split_ifs
  · rw [hf]
    exact hmild
  · exact hmild

lemma ClosesMildly.next? {feed feed' : Feed} {socket : Nat} {a : Arrival} (h : feed.ClosesMildly)
    (hnext : feed.next? socket = some (a, feed')) : feed'.ClosesMildly := by
  rw [Feed.next?] at hnext
  split at hnext
  · rename_i s _
    split at hnext
    · cases hnext
    · rename_i rest _
      cases hnext
      have halter := h.alter (f := fun s => { s with inbox := rest }) (fun _ => rfl) socket
      exact ⟨halter.sockets, halter.script⟩
  · cases hnext

lemma ClosesMildly.close {feed : Feed} (h : feed.ClosesMildly) (socket : Nat) :
    (feed.close socket).2 ≠ some .other := by
  intro hother
  obtain ⟨s, hs, hfails⟩ := Option.bind_eq_some_iff.1 hother
  exact h.sockets s (List.mem_of_getElem? hs) hfails

lemma ClosesMildly.accept {feed : Feed} (h : feed.ClosesMildly) {a : Attempt}
    (ha : a.closeFails ≠ some .other) : (feed.accept a).ClosesMildly := by
  refine ⟨fun s hs => ?_, h.script⟩
  obtain hs | hs := List.mem_append.1 hs
  · exact h.sockets s hs
  · rw [List.mem_singleton.1 hs]
    exact ha

lemma ClosesMildly.attempt {feed : Feed} (h : feed.ClosesMildly) (url : String) :
    (feed.attempt url).1.ClosesMildly ∧ (feed.attempt url).2.closeFails ≠ some .other := by
  refine ⟨⟨h.sockets, fun a ha => h.script a (List.mem_of_mem_tail ha)⟩, ?_⟩
  cases hscript : feed.script with
  | nil =>
    simp only [Feed.attempt, hscript, List.headD_nil]
    nofun
  | cons a rest =>
    simp only [Feed.attempt, hscript, List.headD_cons]
    exact h.script a (hscript ▸ List.mem_cons_self)

/-- What is read ends the connection, or not. -/
lemma losses_next? {feed feed' : Feed} {socket : Nat} {a : Arrival}
    (h : feed.next? socket = some (a, feed')) :
    feed'.losses = feed.losses + if a.ends then 1 else 0 := by
  rw [losses, (Engine.next?_eq_some h).2, List.countP_append, List.countP_singleton, losses]

lemma urls_next? {feed feed' : Feed} {socket : Nat} {a : Arrival}
    (h : feed.next? socket = some (a, feed')) : feed'.urls = feed.urls := by
  rw [Feed.next?] at h
  split at h
  · split at h
    · cases h
    · cases h
      rfl
  · cases h

end Feed

namespace Engine

variable {e e' e₁ : Engine} {i j : TaskId} {t : Task} {w : Work} {fifo : Prop} {l : Link}
variable {s failed dialed : Nat} {a : Arrival} {feed : Feed}

/-- A task is that of the connection of a listener that runs. -/
structure Steady (t : Task) (e : Engine) : Prop extends Linked t e where
  running : (e.listener 0).running = true
  phase : ∀ p, t.work.phase? = some p → (e.listener 0).phase = p
  mild : t.work.ClosesMildly

/-- In a turn in which so many handshakes failed and so many attempts were made, the task of the
connection came from some work to other work. -/
structure Onward (w : Work) (failed dialed : Nat) (e : Engine) (t : Task) (e' : Engine) :
    Prop where
  steady : Steady t e'
  waits : t.work ≠ .connect
  rests : t.work.ahead = 0 → t.work.owes = 0 →
    t.work = .pause ∧ t.wait = .turn ∧ .turn t.id ∈ e'.schedule.queue
  timing : e'.timing = e.timing
  urls : e'.feed.urls.length = e.feed.urls.length + dialed
  attempts : (e'.listener 0).connectAttempts = (e.listener 0).connectAttempts + dialed
  lost : failed + e'.feed.losses + t.work.ahead = e.feed.losses + w.ahead
  kept : (e'.listener 0).reconnectsScheduled + t.work.owes + t.work.ahead =
    (e.listener 0).reconnectsScheduled + w.owes + w.ahead

/-! ## Tasks wait -/

lemma Linked.await (h : Linked t e) (hw : ∃ l, w.duty = .link l) (wait : Wait) :
    Linked { t with work := w, wait } (e.await t.id w wait) :=
  ⟨List.mem_map.2 ⟨t, h.mem, if_pos rfl⟩, h.going, hw⟩

/-- A task that waits for a time stands in the queue without one, and else waits for a new timer. -/
lemma Linked.awaitTime (h : Linked t e) (hw : ∃ l, w.duty = .link l) (delay : Binary64) :
    ∃ t', Linked t' (e.awaitTime t.id w delay) ∧ t'.work = w ∧ t'.id = t.id ∧
      if delay.isZero || delay.isNegative then
        t'.wait = .turn ∧ .turn t.id ∈ (e.awaitTime t.id w delay).schedule.queue
      else t'.wait = .timer e.schedule.nextTimer ∧ t'.timer = some e.schedule.nextTimer ∧
        (e.awaitTime t.id w delay).schedule =
          e.schedule.setTimer delay (.ring t.id e.schedule.nextTimer) := by
  rw [Engine.awaitTime]
  split_ifs
  · exact ⟨{ t with work := w, wait := .turn }, ⟨List.mem_map.2 ⟨t, h.mem, if_pos rfl⟩, h.going, hw⟩,
      rfl, rfl, rfl, List.mem_append_right _ List.mem_cons_self⟩
  · exact ⟨{ t with
      work := w, wait := .timer e.schedule.nextTimer, timer := some e.schedule.nextTimer },
      ⟨List.mem_map.2 ⟨t, h.mem, if_pos rfl⟩, h.going, hw⟩, rfl, rfl, rfl, rfl, rfl⟩

lemma timing_awaitTime (i : TaskId) (w : Work) (delay : Binary64) (e : Engine) :
    (e.awaitTime i w delay).timing = e.timing := by
  rw [awaitTime]
  split_ifs
  · rfl
  · rfl

/-! ## A pause begins -/

/-- A task that pauses before a reconnect has taken the place of that of the connection. -/
structure Paused (e : Engine) (t : Task) (e' : Engine) : Prop where
  linked : Linked t e'
  work : t.work = .pause
  wait : t.wait = .turn
  queue : .turn t.id ∈ e'.schedule.queue
  listener : e'.listener 0 = { e.listener 0 with
    heartbeat := none, socket := none, phase := .disconnected, reconnect := some t.id
    reconnectsScheduled := (e.listener 0).reconnectsScheduled + 1 }
  feed : e'.feed = e.feed
  timing : e'.timing = e.timing

/-- When a connection is lost, a pause begins. -/
lemma Busy.pauses (h : Busy fifo i (.link l) e) (hl : l ≠ .pausing)
    (hrunning : (e.listener 0).running = true) :
    ∃ t, Paused e t ((e.disconnected 0).finishTask i) := by
  have hlistener := listener_dropConnection h.orderly.station
  have hnext := nextTask_dropConnection 0 e
  rw [disconnected_eq, if_pos (by rw [hlistener]; exact hrunning), scheduleReconnect,
    h.reconnect_dropConnection hl, if_neg Bool.false_ne_true]
  refine ⟨⟨(e.dropConnection 0).nextTask, 0, .pause, .turn, none, false⟩, ⟨?_, rfl, .pausing, rfl⟩,
    rfl, rfl, ?_, ?_, ?_, ?_⟩
  · refine List.mem_map.2 ⟨_, List.mem_filter.2 ⟨List.mem_append_right _ List.mem_cons_self,
      bne_iff_ne.2 (hnext ▸ h.orderly.ne_next.symm)⟩, rfl⟩
  · exact List.mem_append_left _ (List.mem_append_right _ List.mem_cons_self)
  · have hl := listener_of_station h.orderly.dropConnection.station fun l => { l with
      reconnectsScheduled := l.reconnectsScheduled + 1
      reconnect := some (e.dropConnection 0).nextTask }
    refine hl.trans ?_
    rw [hlistener]
  · exact feed_dropConnection 0 e
  · exact timing_dropConnection 0 e

/-- A connection that is there or owed is lost in that turn, or was before. -/
lemma Paused.onward (h : Paused e t e') (hrunning : (e.listener 0).running = true)
    (hfailed : failed = w.ahead) (hone : w.ahead + w.owes = 1) : Onward w failed 0 e t e' := by
  obtain ⟨hlinked, hwork, hwait, hqueue, hlistener, hfeed, htiming⟩ := h
  refine ⟨⟨hlinked, ?_, fun p hp => ?_, ?_⟩, ?_, fun _ _ => ⟨hwork, hwait, hqueue⟩, htiming, ?_, ?_,
    ?_, ?_⟩
  · rw [hlistener]
    exact hrunning
  · rw [hwork] at hp
    rw [hlistener]
    exact Option.some.inj hp
  · rw [hwork]
    trivial
  · rw [hwork]
    nofun
  · rw [hfeed]
    rfl
  · rw [hlistener]
    rfl
  · rw [hwork, hfeed, hfailed]
    exact Nat.add_comm w.ahead _
  · rw [hwork, hlistener, Nat.add_assoc _ w.owes, Nat.add_comm w.owes, hone]
    rfl

/-! ## Messages -/

lemma Busy.onward_closed {failure : Option Failure} (h : Busy fifo i (.link .closing) e)
    (hrunning : (e.listener 0).running = true) (hmild : failure ≠ some .other) :
    ∃ t, Onward (.closed failure) 0 0 e t (e.closed 0 i failure) := by
  obtain ⟨t, ht⟩ := h.pauses (by nofun) hrunning
  have hclosed : e.closed 0 i failure = (e.disconnected 0).finishTask i := by
    rw [Engine.closed.eq_def]
    split
    · exact absurd rfl hmild
    · rfl
  rw [hclosed]
  exact ⟨t, ht.onward hrunning rfl rfl⟩

/-- What happens before an onward turn, if it leaves alone what is counted. -/
lemma Onward.from (h : Onward w failed dialed e₁ t e') {w₀ : Work} (htiming : e₁.timing = e.timing)
    (hurls : e₁.feed.urls = e.feed.urls)
    (hattempts : (e₁.listener 0).connectAttempts = (e.listener 0).connectAttempts)
    (hscheduled : (e₁.listener 0).reconnectsScheduled = (e.listener 0).reconnectsScheduled)
    (hlost : e₁.feed.losses + w.ahead = e.feed.losses + w₀.ahead)
    (hkept : w.owes + w.ahead = w₀.owes + w₀.ahead) : Onward w₀ failed dialed e t e' := by
  have hlost' := h.lost
  have hkept' := h.kept
  refine { h with
    timing := h.timing.trans htiming, urls := hurls ▸ h.urls
    attempts := hattempts ▸ h.attempts, lost := ?_, kept := ?_ }
  · omega
  · omega

lemma feed_takeFrame (k : Nat) (p : Payload) (e : Engine) : (e.takeFrame k p).feed = e.feed := by
  rw [takeFrame]
  split_ifs
  · rfl
  · rfl

/-- The task of the connection waits where it has come to. -/
lemma Linked.onward (h : Linked t e') (hwork : t.work = w)
    (hlistener : e'.listener 0 = e.listener 0) (hfeed : e'.feed = e.feed)
    (htiming : e'.timing = e.timing) (hrunning : (e.listener 0).running = true)
    (hphase : w.phase? = some (e.listener 0).phase) (hone : w.ahead + w.owes = 1)
    (hmild : w.ClosesMildly) : Onward w 0 0 e t e' := by
  subst hwork
  refine ⟨⟨h, hlistener ▸ hrunning, fun p hp => ?_, hmild⟩, fun hconnect => ?_,
    fun hahead howes => ?_, htiming, by rw [hfeed]; rfl, by rw [hlistener]; rfl,
    by rw [hfeed, Nat.zero_add], by rw [hlistener]⟩
  · rw [hlistener]
    exact Option.some.inj (hphase.symm.trans hp)
  · rw [hconnect] at hphase
    cases hphase
  · omega

/-- What ends a connection is read. -/
lemma Linked.onward_endConnection (h : Linked t e) (hbusy : Busy fifo t.id (.link (.reading s)) e)
    (hrunning : (e.listener 0).running = true) (hphase : (e.listener 0).phase = .connected)
    (hmild : e.feed.ClosesMildly) (hnext : e.feed.next? s = some (a, feed))
    (hends : a.ends = true) :
    ∃ t', Onward (.read s) 0 0 e t' (endConnection 0 t.id s { e with feed }) := by
  have hclose : (feed.close s).2 ≠ some .other := (hmild.next? hnext).close s
  have hfrom : ∀ t' e', Onward (.closed (feed.close s).2) 0 0
      { e with feed := (feed.close s).1 } t' e' → Onward (.read s) 0 0 e t' e' := by
    intro t' e' honward
    have hurls : feed.urls = e.feed.urls := Feed.urls_next? hnext
    refine honward.from rfl hurls rfl rfl ?_ rfl
    change feed.losses + 0 = e.feed.losses + 1
    rw [Feed.losses_next? hnext, hends]
    rfl
  have hlinked : Linked t { e with feed := (feed.close s).1 } := ⟨h.mem, h.going, h.link⟩
  rw [Engine.endConnection]
  dsimp only
  split_ifs
  · obtain ⟨t', ht'⟩ := (hbusy.close hnext hends).onward_closed hrunning hclose
    exact ⟨t', hfrom t' _ ht'⟩
  · obtain ⟨t', ht', hwork, -⟩ := hlinked.awaitTime (w := .closed (feed.close s).2) ⟨.closing, rfl⟩
      (seconds (feed.closeDelay s))
    exact ⟨t', hfrom t' _ (ht'.onward hwork (listener_awaitTime _ _ _ _) (feed_awaitTime _ _ _ _)
      (timing_awaitTime _ _ _ _) hrunning (congrArg some hphase.symm) rfl hclose)⟩

/-- A connection reads what has arrived. -/
lemma Linked.onward_readFrom (h : Linked t e) (hbusy : Busy fifo t.id (.link (.reading s)) e)
    (hrunning : (e.listener 0).running = true) (hphase : (e.listener 0).phase = .connected)
    (hmild : e.feed.ClosesMildly) (fuel : Nat) :
    ∃ t', Onward (.read s) 0 0 e t' (e.readFrom 0 t.id s fuel) := by
  have hawait : ∀ {e : Engine} {t : Task}, Linked t e → (e.listener 0).running = true →
      (e.listener 0).phase = .connected →
      ∃ t', Onward (.read s) 0 0 e t' (e.await t.id (.read s) (.arrival s)) :=
    fun h hrunning hphase => ⟨_, (h.await (w := .read s) ⟨.reading s, rfl⟩ (.arrival s)).onward rfl
      rfl rfl rfl hrunning (congrArg some hphase.symm) rfl trivial⟩
  induction fuel generalizing e t with
  | zero => exact hawait h hrunning hphase
  | succ fuel ih =>
    rw [Engine.readFrom]
    cases hnext : e.feed.next? s with
    | none => exact hawait h hrunning hphase
    | some r =>
      obtain ⟨a, feed⟩ := r
      -- a message that ends nothing is no loss
      have hread : Linked t { e with feed } := ⟨h.mem, h.going, h.link⟩
      have hgoing : a.ends = false → feed.losses + 1 = e.feed.losses + 1 := by
        intro hends
        rw [Feed.losses_next? hnext, hends]
        rfl
      cases a with
      | message m =>
        cases m with
        | frame p =>
          have hapart : Apart t.id { e with feed } (Engine.takeFrame 0 p { e with feed }) :=
            .takeFrame 0 p
          obtain ⟨t₁, ht₁, hstays⟩ := hapart.stays t hread rfl
          have hmild' : (Engine.takeFrame 0 p { e with feed }).feed.ClosesMildly := by
            rw [feed_takeFrame]
            exact hmild.next? hnext
          rw [← hstays.id] at hbusy ⊢
          obtain ⟨t', ht'⟩ := ih ht₁ (hbusy.takeFrame hnext)
            (hapart.running.trans hrunning) (hapart.phase.trans hphase) hmild'
          exact ⟨t', ht'.from hapart.timing (hapart.urls.trans (Feed.urls_next? hnext))
            hapart.attempts hapart.scheduled
            ((congrArg (·.countP (·.2.ends) + 1) hapart.read).trans (hgoing rfl)) rfl⟩
        | error => exact h.onward_endConnection hbusy hrunning hphase hmild hnext rfl
        | control =>
          obtain ⟨t', ht'⟩ := ih hread (hbusy.hear hnext rfl rfl) hrunning hphase (hmild.next? hnext)
          exact ⟨t', ht'.from rfl (Feed.urls_next? hnext) rfl rfl (hgoing rfl) rfl⟩
      | ended => exact h.onward_endConnection hbusy hrunning hphase hmild hnext rfl
      | failed f => exact h.onward_endConnection hbusy hrunning hphase hmild hnext rfl

/-! ## Attempts -/

/-- An attempt that is over failed, or gave a socket, which is read. -/
lemma Linked.onward_connected (h : Linked t e) (hbusy : Busy fifo t.id (.link .shaking) e)
    (hrunning : (e.listener 0).running = true) (hmild : e.feed.ClosesMildly) (a : Attempt)
    (ha : a.closeFails ≠ some .other) :
    ∃ t', Onward (.connected a) a.fails.isSome.toNat 0 e t' (e.connected 0 t.id a) := by
  rw [Engine.connected]
  split
  · rename_i f hfails
    obtain ⟨t', ht'⟩ := hbusy.pauses (by rintro ⟨⟩) hrunning
    refine ⟨t', ht'.onward hrunning ?_ rfl⟩
    rw [hfails]
    rfl
  · rename_i hfails
    -- the task is where it was when the heartbeat begins
    obtain ⟨e₁, he₁⟩ : ∃ e₁, e₁ = (alterListener 0 (fun l => { l with
        socket := some e.feed.sockets.length, phase := .connected, heartbeat := some e.nextTask })
        { e with feed := e.feed.accept a }).spawn 0 (.rest e.feed.sockets.length) := ⟨_, rfl⟩
    have hread := hbusy.accept a
    have hlistener := listener_of_station (e := { e with feed := e.feed.accept a })
      hbusy.orderly.station fun l => { l with
        socket := some e.feed.sockets.length, phase := .connected, heartbeat := some e.nextTask }
    dsimp only
    rw [← he₁] at hread ⊢
    have hlistener₁ : e₁.listener 0 = { e.listener 0 with
        socket := some e.feed.sockets.length, phase := .connected
        heartbeat := some e.nextTask } := by
      rw [he₁]
      exact hlistener
    have hlinked : Linked t e₁ := by
      rw [he₁]
      exact ⟨List.mem_append_left _ h.mem, h.going, h.link⟩
    have hfeed : e₁.feed = e.feed.accept a := by rw [he₁]; rfl
    obtain ⟨t', ht'⟩ := hlinked.onward_readFrom hread (by rw [hlistener₁]; exact hrunning)
      (by rw [hlistener₁]) (hfeed ▸ hmild.accept ha) _
    rw [hfails]
    refine ⟨t', ht'.from ?_ ?_ ?_ ?_ ?_ rfl⟩
    · rw [he₁]
      rfl
    · rw [hfeed]
      rfl
    · rw [hlistener₁]
    · rw [hlistener₁]
    · rw [hfeed]
      rfl

/-- An attempt takes its time, or is over at once. -/
lemma Linked.onward_connect (h : Linked t e) (hbusy : Busy fifo t.id (.link .connecting) e)
    (hrunning : (e.listener 0).running = true) (hmild : e.feed.ClosesMildly) :
    ∃ t', Onward .connect (Work.connect.failures e.feed) 1 e t'
      (e.connect 0 t.id) := by
  have hbusy₁ := hbusy.attempt
  have hlistener := listener_of_station hbusy.orderly.station fun l => { l with
    phase := .connecting, connectAttempts := l.connectAttempts + 1, hasSession := true }
  obtain ⟨e₁, he₁⟩ : ∃ e₁, e₁ = { e.alterListener 0 fun l => { l with
      phase := .connecting, connectAttempts := l.connectAttempts + 1, hasSession := true } with
      feed := (e.feed.attempt e.timing.feedUrl).1 } := ⟨_, rfl⟩
  obtain ⟨a, ha⟩ : ∃ a, a = (e.feed.attempt e.timing.feedUrl).2 := ⟨_, rfl⟩
  have hconnect : e.connect 0 t.id = if a.delay = 0 then e₁.connected 0 t.id a
      else e₁.awaitTime t.id (.connected a) (seconds a.delay) := by
    rw [he₁, ha]
    rfl
  have hover : Work.connect.over? e.feed = if a.delay = 0 then some a else none := by
    rw [ha]
    rfl
  have hlistener₁ : e₁.listener 0 = { e.listener 0 with
      phase := .connecting, connectAttempts := (e.listener 0).connectAttempts + 1
      hasSession := true } := by
    rw [he₁]
    exact hlistener
  have hlinked : Linked t e₁ := by
    rw [he₁]
    exact ⟨h.mem, h.going, h.link⟩
  have hrunning₁ : (e₁.listener 0).running = true := by
    rw [hlistener₁]
    exact hrunning
  obtain ⟨hmild₁, hmild'⟩ := hmild.attempt e.timing.feedUrl
  -- the attempt is counted, and then it is as if its task had come to its end
  have hcount : ∀ {failed : Nat} {t' : Task} {e' : Engine},
      Onward (.connected a) failed 0 e₁ t' e' → Onward .connect failed 1 e t' e' := by
    intro failed t' e' honward
    have hlosses : e₁.feed.losses = e.feed.losses := by rw [he₁]; rfl
    refine { honward with
      timing := honward.timing.trans ?_, urls := honward.urls.trans ?_
      attempts := honward.attempts.trans ?_, lost := ?_, kept := ?_ }
    · rw [he₁]
      rfl
    · rw [he₁]
      exact List.length_append
    · rw [hlistener₁]
    · rw [← hlosses]
      exact honward.lost
    · have hkept := honward.kept
      rw [hlistener₁] at hkept
      exact hkept
  rw [hconnect, Work.failures, hover]
  split_ifs
  · obtain ⟨t', ht'⟩ := hlinked.onward_connected (he₁ ▸ hbusy₁) hrunning₁
      (by rw [he₁]; exact hmild₁) a (ha ▸ hmild')
    exact ⟨t', hcount ht'⟩
  · obtain ⟨t', ht', hwork, -⟩ := hlinked.awaitTime (w := .connected a) ⟨.shaking, rfl⟩
      (seconds a.delay)
    refine ⟨t', hcount (ht'.onward hwork (listener_awaitTime _ _ _ _) (feed_awaitTime _ _ _ _)
      (timing_awaitTime _ _ _ _) hrunning₁ ?_ rfl (ha ▸ hmild'))⟩
    rw [hlistener₁]
    rfl

/-! ## Turns -/

/-- A task that is about to connect stands in the queue. -/
structure Dials (t : Task) (e : Engine) : Prop where
  linked : Linked t e
  work : t.work = .connect
  wait : t.wait = .turn
  queue : .turn t.id ∈ e.schedule.queue

lemma Dials.steady (h : Dials t e) (hrunning : (e.listener 0).running = true) : Steady t e := by
  refine ⟨h.linked, hrunning, fun p hp => ?_, ?_⟩
  · rw [h.work] at hp
    cases hp
  · rw [h.work]
    trivial

/-- When the listener is started, a connection is begun. -/
lemma dials_startListener (hstation : ∃ st, e.stations = [st])
    (hstopped : (e.listener 0).running = false) :
    ∃ t, Dials t (e.startListener 0) ∧ (e.startListener 0).listener 0 =
        { e.listener 0 with running := true, connection := some t.id } ∧
      (e.startListener 0).feed = e.feed ∧ (e.startListener 0).timing = e.timing := by
  have hlistener := listener_of_station hstation fun l =>
    { l with running := true, connection := some e.nextTask }
  rw [startListener, if_neg (Bool.eq_false_iff.1 hstopped)]
  exact ⟨⟨e.nextTask, 0, .connect, .turn, none, false⟩, ⟨⟨List.mem_append_right _
    List.mem_cons_self, rfl, .connecting, rfl⟩, rfl, rfl, List.mem_append_right _
    List.mem_cons_self⟩, hlistener, rfl, rfl⟩

/-- When the pause before a reconnect is over, a connection is begun. -/
lemma dials_reconnect (horderly : e.Orderly fifo (some i))
    (hrunning : (e.listener 0).running = true) :
    ∃ t, Dials t (e.reconnect 0 i) ∧ (e.reconnect 0 i).listener 0 =
        { e.listener 0 with reconnect := none, connection := some t.id } ∧
      (e.reconnect 0 i).feed = e.feed ∧ (e.reconnect 0 i).timing = e.timing := by
  obtain ⟨e₁, he₁⟩ : ∃ e₁, e₁ = e.alterListener 0 fun l => { l with reconnect := none } := ⟨_, rfl⟩
  have horderly₁ : e₁.Orderly fifo (some i) := he₁ ▸ horderly.alterListener _
  have hlistener₁ : e₁.listener 0 = { e.listener 0 with reconnect := none } := by
    rw [he₁]
    exact listener_of_station horderly.station _
  have hlistener₂ := listener_of_station horderly₁.station fun l =>
    { l with connection := some e₁.nextTask }
  have hne : i ≠ e₁.nextTask := horderly₁.ne_next
  have hreconnect : e.reconnect 0 i = finishTask i
      ((e₁.alterListener 0 fun l => { l with connection := some e₁.nextTask }).spawn 0
        .connect) := by
    rw [reconnect, ← he₁, if_pos (by rw [hlistener₁]; exact hrunning)]
  rw [hreconnect]
  refine ⟨⟨e₁.nextTask, 0, .connect, .turn, none, false⟩, ⟨⟨?_, rfl, .connecting, rfl⟩, rfl, rfl,
    ?_⟩, ?_, ?_, ?_⟩
  · exact List.mem_map.2 ⟨_, List.mem_filter.2 ⟨List.mem_append_right _ List.mem_cons_self,
      bne_iff_ne.2 hne.symm⟩, rfl⟩
  · exact List.mem_append_left _ (List.mem_append_right _ List.mem_cons_self)
  · refine hlistener₂.trans ?_
    rw [hlistener₁]
  · rw [he₁]
    rfl
  · rw [he₁]
    rfl

/-- A turn of the task of the connection that is no pause leads on. -/
lemma Steady.onward (h : Steady t e) (hready : Ready fifo t e) (hmild : e.feed.ClosesMildly)
    (hopen : t.work.ahead + t.work.owes = 1) :
    ∃ t', Onward t.work (t.work.failures e.feed) t.work.calls e t' (e.runTask t) := by
  rw [runTask, if_neg (Bool.eq_false_iff.1 h.going), hready.orderly.home t h.mem]
  have hmild' := h.mild
  have hphase := h.phase
  cases hwork : t.work with
  | connect =>
    exact h.toLinked.onward_connect (hready.busy hwork rfl (by rintro ⟨⟩)) h.running hmild
  | connected a =>
    rw [hwork] at hmild'
    exact h.toLinked.onward_connected (hready.busy hwork rfl (by rintro ⟨⟩)) h.running hmild a hmild'
  | read s =>
    exact h.toLinked.onward_readFrom (hready.busy hwork rfl (by rintro ⟨⟩)) h.running
      (hphase _ (by rw [hwork]; rfl)) hmild _
  | closed failure =>
    rw [hwork] at hmild'
    exact (hready.busy hwork rfl (by rintro ⟨⟩)).onward_closed h.running hmild'
  | _ => rw [hwork] at hopen; cases hopen

/-- A pause goes on to the delay. -/
lemma Steady.pause {delay : Binary64} (h : Steady t e) (hwork : t.work = .pause)
    (hdelay : e.timing.reconnectDelay = some delay) :
    e.runTask t = e.awaitTime t.id .reconnect delay := by
  rw [runTask, if_neg (Bool.eq_false_iff.1 h.going), hwork]
  dsimp only
  rw [hdelay]

/-- A pause that waits for its delay is still a pause. -/
lemma Steady.awaitTime (h : Steady t e) (hwork : t.work = .pause) {t' : Task} {delay : Binary64}
    (ht' : Linked t' (e.awaitTime t.id .reconnect delay)) (hwork' : t'.work = .reconnect) :
    Steady t' (e.awaitTime t.id .reconnect delay) := by
  refine ⟨ht', ?_, fun p hp => ?_, ?_⟩
  · rw [listener_awaitTime]
    exact h.running
  · rw [listener_awaitTime]
    exact h.phase p (by rw [hwork]; rwa [hwork'] at hp)
  · rw [hwork']
    trivial

lemma Steady.reconnect (h : Steady t e) (hready : Ready fifo t e) (hwork : t.work = .reconnect) :
    e.runTask t = e.reconnect 0 t.id := by
  rw [runTask, if_neg (Bool.eq_false_iff.1 h.going), hwork, hready.orderly.home t h.mem]

/-- The task of the connection has to connect, has come further, or is a pause. -/
lemma Linked.cases (h : Linked t e) :
    t.work.ahead + t.work.owes = 1 ∨ t.work = .pause ∨ t.work = .reconnect := by
  obtain ⟨l, hl⟩ := h.link
  cases hwork : t.work with
  | pause => exact .inr (.inl rfl)
  | reconnect => exact .inr (.inr rfl)
  | connect => exact .inl rfl
  | connected a => exact .inl rfl
  | read s => exact .inl rfl
  | closed failure => exact .inl rfl
  | _ => rw [hwork] at hl; cases hl

/-- Whatever happens apart from it, the task stays that of the connection. -/
lemma Steady.apart (h : Steady t e) (hapart : Apart t.id e e') :
    ∃ t', Steady t' e' ∧ t.Stays t' := by
  obtain ⟨t', ht', hstays⟩ := hapart.stays t h.toLinked rfl
  refine ⟨t', ⟨ht', hapart.running.trans h.running, fun p hp => ?_, ?_⟩, hstays⟩
  · rw [hapart.phase]
    exact h.phase p (hstays.work ▸ hp)
  · rw [hstays.work]
    exact h.mild

/-- The timer goes off that the task of the connection waits for. -/
lemma Steady.ring (h : Steady t e) {n : Nat} (hwait : t.wait = .timer n) :
    Steady { t with wait := .turn } (e.make (.alarm (.ring t.id n))) ∧
      .turn t.id ∈ (e.make (.alarm (.ring t.id n))).schedule.queue := by
  have hrung : (t.id == t.id && t.wait == .timer n) = true := by
    rw [hwait, beq_self_eq_true, beq_self_eq_true]
    rfl
  refine ⟨⟨⟨List.mem_map.2 ⟨t, h.mem, if_pos hrung⟩, h.going, h.link⟩, h.running, h.phase, h.mild⟩,
    List.mem_append_right _ (List.mem_map.2 ⟨t, List.mem_filter.2 ⟨h.mem, hrung⟩, rfl⟩)⟩

end Engine

end FeedWatch
