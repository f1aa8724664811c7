import FeedWatch.Proofs.Listener.Aside
import FeedWatch.Proofs.Listener.Safety

/-!
# What brings a heartbeat on

To make and to lose a connection, to start and to stop the listener leave the heartbeats on a socket
alone, and so does every turn of a task that is none of them (`Engine.Aside`).  Main statement: a
call does so, or a timer goes off, or it is the turn of a heartbeat on the socket
(`Engine.make_cases`).
-/

namespace FeedWatch

/-- The socket of a new connection is the next one, and nothing was sent on it. -/
lemma Feed.textsOn_accept (a : Attempt) (s : Nat) (feed : Feed) :
    (feed.accept a).textsOn s = feed.textsOn s := by
  rw [textsOn, accept, textsOn]
  obtain hlt | rfl | hgt := Nat.lt_trichotomy s feed.sockets.length
  · rw [List.getElem?_append_left hlt]
  · rw [List.getElem?_concat_length, List.getElem?_eq_none (Nat.le_refl _)]
    rfl
  · rw [List.getElem?_eq_none (Nat.le_of_lt hgt), List.getElem?_eq_none]
    rw [List.length_append]
    exact hgt

lemma Feed.textsOn_send {s socket : Nat} (h : socket ≠ s) (text : String) (feed : Feed) :
    (feed.send socket text).1.textsOn s = feed.textsOn s := by
  rw [send]
  split
  · rfl
  · rw [textsOn, alter, List.getElem?_modify_ne _ _ h, textsOn]

lemma Feed.length_send (socket : Nat) (text : String) (feed : Feed) :
    (feed.send socket text).1.sockets.length = feed.sockets.length := by
  rw [send]
  split
  · rfl
  · exact length_alter _ _ _

namespace Engine

variable {e e' : Engine} {s k : Nat} {i : TaskId} {t : Task} {w : Work} {fifo : Prop}
variable {busy : Option TaskId} {a : Arrival} {c : Call}

/-! ## Connections are made and lost -/

lemma Quiet.next? {socket : Nat} {feed : Feed} (h : e.feed.next? socket = some (a, feed)) :
    Quiet e { e with feed } := by
  rw [Feed.next?] at h
  split at h
  · split at h
    · cases h
    · cases h
      refine withFeed (Feed.length_alter _ _ _) fun s => Feed.textsOn_alter (fun _ => ?_) s socket
        e.feed
      rfl
  · cases h

namespace Aside

lemma dropConnection (k : Nat) : Aside s e (e.dropConnection k) :=
  ((Quiet.dropHeartbeat k).aside s).trans (.alterListener k _)

lemma disconnected (k : Nat) : Aside s e (e.disconnected k) := by
  rw [disconnected_eq]
  split_ifs
  · exact (dropConnection k).trans ((Quiet.scheduleReconnect k).aside s)
  · exact dropConnection k

lemma closed (k : Nat) (i : TaskId) (failure : Option Failure) :
    Aside s e (e.closed k i failure) := by
  rw [Engine.closed.eq_def]
  split
  · exact (Quiet.finishTask i).aside s
  · exact (disconnected k).trans ((Quiet.finishTask i).aside s)

lemma endConnection (k : Nat) (i : TaskId) (socket : Nat) :
    Aside s e (e.endConnection k i socket) := by
  have hclose : Aside s e { e with feed := (e.feed.close socket).1 } := (Quiet.close socket).aside s
  rw [Engine.endConnection]
  split_ifs
  · exact hclose.trans (closed k i _)
  · exact hclose.trans (awaitTime (w := .closed _) (by rintro ⟨⟩) i _)

lemma readFrom (k : Nat) (i : TaskId) (socket fuel : Nat) :
    Aside s e (e.readFrom k i socket fuel) := by
  induction fuel generalizing e with
  | zero => exact await (w := .read socket) (by nofun) i _
  | succ fuel ih =>
    rw [Engine.readFrom]
    cases hnext : e.feed.next? socket with
    | none => exact await (w := .read socket) (by nofun) i _
    | some r =>
      obtain ⟨a, feed⟩ := r
      have hread := (Quiet.next? hnext).aside s
      cases a with
      | message m =>
        cases m with
        | frame p => exact (hread.trans ((Quiet.takeFrame k p).aside s)).trans ih
        | error => exact hread.trans (endConnection k i socket)
        | control => exact hread.trans ih
      | ended => exact hread.trans (endConnection k i socket)
      | failed f => exact hread.trans (endConnection k i socket)

/-- A socket is given, and the heartbeat on it begins. -/
lemma establish (k : Nat) (a : Attempt) (f : Listener → Listener) :
    Aside s e ((Engine.alterListener k f { e with feed := e.feed.accept a }).spawn k
      (.rest e.feed.sockets.length)) := by
  have hlength : (e.feed.accept a).sockets.length = e.feed.sockets.length + 1 := by
    rw [Feed.accept, List.length_append, List.length_singleton]
  refine ⟨⟨e.nextTask, fun t ht hs => ?_⟩, .enqueue rfl, ?_, Feed.textsOn_accept a s e.feed,
    rfl⟩
  · obtain ht | ht := List.mem_append.1 ht
    · exact .inl ⟨t, ht, .refl t⟩
    · rw [List.mem_singleton.1 ht] at hs ⊢
      obtain rfl := Option.some.inj hs
      exact .inr ⟨rfl, rfl, Nat.le_refl _, hlength ▸ Nat.lt_succ_self _⟩
  · exact hlength ▸ Nat.le_succ _

lemma connected (k : Nat) (i : TaskId) (a : Attempt) : Aside s e (e.connected k i a) := by
  rw [Engine.connected]
  split
  · exact (disconnected k).trans ((Quiet.finishTask i).aside s)
  · exact (establish k a _).trans (readFrom k i _ _)

lemma connect (k : Nat) (i : TaskId) : Aside s e (e.connect k i) := by
  have hfeed : ∀ e₁ : Engine, e₁.feed = e.feed →
      Aside s e₁ { e₁ with feed := (e.feed.attempt e.timing.feedUrl).1 } := by
    intro e₁ he
    refine (Quiet.withFeed ?_ fun _ => ?_).aside s
    · rw [he]
      rfl
    · rw [he]
      rfl
  have hattempt : Aside s e { e.alterListener k fun l => { l with
      phase := .connecting, connectAttempts := l.connectAttempts + 1, hasSession := true } with
      feed := (e.feed.attempt e.timing.feedUrl).1 } :=
    (alterListener k _).trans (hfeed _ rfl)
  rw [Engine.connect]
  dsimp only
  split_ifs
  · exact hattempt.trans (connected k i _)
  · exact hattempt.trans (awaitTime (w := .connected _) (by rintro ⟨⟩) i _)

/-! ## Heartbeats on other sockets -/

lemma sent {socket : Nat} (hs : socket ≠ s) (i : TaskId) (failure : Option Failure) :
    Aside s e (e.sent i socket failure) := by
  rw [Engine.sent]
  split_ifs
  · exact (Quiet.finishTask i).aside s
  · exact awaitTime (w := .beat socket) (fun h => hs (Option.some.inj h)) i _

lemma beat {socket : Nat} (hs : socket ≠ s) (i : TaskId) : Aside s e (e.beat i socket) := by
  have hsend : Aside s e { e with feed := (e.feed.send socket heartbeat).1 } :=
    ⟨⟨0, fun t ht _ => .inl ⟨t, ht, .refl t⟩⟩, .refl _,
      Nat.le_of_eq (Feed.length_send _ _ _).symm, Feed.textsOn_send hs _ _, rfl⟩
  rw [Engine.beat]
  dsimp only
  split_ifs
  · exact hsend.trans (sent hs i _)
  · exact hsend.trans (awaitTime (w := .sent socket _) (fun h => hs (Option.some.inj h)) i _)

end Aside

/-! ## Starting and stopping -/

lemma Aside.stopListening (h : ∃ st, e.stations = [st]) : Aside s e (e.stopListening 0) := by
  rw [Engine.stopListening]
  split_ifs
  · refine (alterListener 0 _).trans ((Quiet.cancelNext ?_ 0 _).aside s)
    rw [listener_of_station h]
  · exact (Quiet.endStop none).aside s

lemma Aside.startListener (k : Nat) : Aside s e (e.startListener k) := by
  rw [Engine.startListener]
  split_ifs
  · exact .refl e
  · exact (alterListener k _).trans
      (of_inherits (.concat (by rintro ⟨⟩) _) (.enqueue rfl) rfl rfl)

/-- While it stops, the listener does not run. -/
lemma Quiet.wakeOutside (hstops : ∀ st, e.stopping = some st →
      (e.listener 0).running = false ∧ st ≠ .refresher) : Quiet e e.wakeOutside := by
  rw [Engine.wakeOutside.eq_def]
  dsimp only
  split
  · exact same rfl (.refl _) rfl rfl rfl
  · rename_i hst
    exact absurd rfl (hstops _ hst).2
  · rename_i hst
    exact cancelNext (hstops _ hst).1 _ _
  · rename_i hst
    exact socketClosed (hstops _ hst).1 _ _
  · rename_i hst
    exact leaveSession (hstops _ hst).1 _

/-! ## What brings a heartbeat on -/

lemma Rest.stops (h : Rest fifo e) {st : Stopping} (hst : e.stopping = some st) :
    (e.listener 0).running = false ∧ st ≠ .refresher :=
  ⟨(h.sound.halts.stops st hst).1, (h.sound.halts.stops st hst).2.2⟩

/-- Heartbeats are brought on by none but their own turns. -/
lemma Aside.runTask (h : Rest fifo e) (ht : t ∈ e.tasks)
    (hs : t.cancelled = false → t.work.socket? ≠ some s) : Aside s e (e.runTask t) := by
  rw [Engine.runTask]
  split_ifs with hcancelled
  · have hend : Aside s e (e.endCancelled t) := (Quiet.endCancelled t).aside s
    dsimp only
    split
    · exact hend.trans (enqueue rfl)
    · exact hend
  · have hs := hs (Bool.eq_false_iff.2 hcancelled)
    cases hwork : t.work with
    | outside => exact (Quiet.wakeOutside fun st hst => h.stops hst).aside s
    | connect => exact connect _ _
    | connected a => exact connected _ _ a
    | read socket => exact readFrom _ _ socket _
    | closed failure => exact closed _ _ failure
    | rest socket =>
      rw [hwork] at hs
      exact awaitTime (w := .beat socket) hs _ _
    | beat socket =>
      rw [hwork] at hs
      exact beat (fun hsocket => hs (congrArg some hsocket)) _
    | sent socket failure =>
      rw [hwork] at hs
      exact sent (fun hsocket => hs (congrArg some hsocket)) _ failure
    | pause =>
      dsimp only
      split
      · exact awaitTime (w := .reconnect) (by rintro ⟨⟩) _ _
      · exact (Quiet.finishTask _).aside s
    | reconnect =>
      rw [h.orderly.home t ht]
      exact (Quiet.reconnect _).aside s
    | receive p => exact (Quiet.progress _ _ _).aside s
    | resume stage => exact (Quiet.progress _ _ _).aside s
    | idle => exact awaitTime (w := .refresh) (by rintro ⟨⟩) _ _
    | refresh =>
      exact (Quiet.refresh.aside s).trans (awaitTime (w := .refresh) (by rintro ⟨⟩) _ _)
    | vigil => exact (Quiet.watch _).aside s

/-- A call is aside from the heartbeats on a socket, or a timer of a task goes off, or the call is
the turn of a heartbeat on the socket. -/
lemma make_cases (h : Rest fifo e) (c : Call) (s : Nat) :
    Aside s e (e.make c) ∨ (∃ i n, c = .alarm (.ring i n)) ∨
      ∃ t ∈ e.tasks, c = .turn t.id ∧ t.cancelled = false ∧ t.work.socket? = some s ∧
        e.make c = e.runTask t := by
  cases c with
  | turn i =>
    cases ht : e.task? i with
    | none =>
      refine .inl ?_
      rw [Engine.make]
      simp only [ht]
      exact .refl e
    | some t =>
      obtain rfl := id_of_task? ht
      have hmake : e.make (.turn t.id) = e.runTask t := by
        rw [Engine.make]
        simp only [ht]
      by_cases hown : t.cancelled = false ∧ t.work.socket? = some s
      · exact .inr (.inr ⟨t, mem_of_task? ht, rfl, hown.1, hown.2, hmake⟩)
      · rw [hmake]
        exact .inl (.runTask h (mem_of_task? ht) fun hgoing hs => hown ⟨hgoing, hs⟩)
  | alarm a =>
    cases a with
    | ring i n => exact .inr (.inl ⟨i, n, rfl⟩)
    | release =>
      exact .inl ((Quiet.wakeWaiting .release rfl fun t ht => beq_iff_eq.1 ht).aside s)
    | request => exact .inl (Quiet.request.aside s)
  | settled k i => exact .inl ((Quiet.settled k i).aside s)
  | gathered i => exact .inl ((Quiet.gathered i).aside s)

/-- Between the calls, nothing but the world brings anything on. -/
lemma Step.cases_of_rest {next : Engine → Engine → Prop} (hstep : Step next e e')
    (h : Rest fifo e) (s : Nat) : next e e' ∨ Aside s e e' ∨ ∃ feed network disk,
      feed.sockets.length = e.feed.sockets.length ∧ e' = { e with feed, network, disk } := by
  cases hstep with
  | call hcall => exact .inl hcall
  | start _ _ => exact .inr (.inl (.startListener 0))
  | stop _ _ =>
    have hfailure : Aside s e { e with failure := none } := .same rfl (.refl _) rfl rfl
    exact .inr (.inl (hfailure.trans (.stopListening h.orderly.station)))
  | sleep _ _ delay => exact .inr (.inl ((Quiet.sleep delay).aside s))
  | refresher => exact .inr (.inl ((Quiet.startRefresher 0).aside s))
  | arrive _ a => exact .inr (.inl ((Quiet.arrive a).aside s))
  | operate _ st f => exact .inr (.inl ((Quiet.operate 0 st f).aside s))
  | world _ feed network disk hclosings _ =>
    refine .inr (.inr ⟨feed, network, disk, ?_, rfl⟩)
    rw [← List.length_map Socket.closings, hclosings, List.length_map]

end Engine

end FeedWatch
