import FeedWatch.Proofs.Listener.Pulse

/-!
# Heartbeats keep their intervals

A heartbeat waits for a timer of its own before each text.  In a run in which no timer goes off
before it is due, the next text is not sent before the interval after the last one, or after the
beginning of the connection, has passed (`Engine.Paced`).  What the engine does is such a run
(`Engine.Reachable.inTime`).
-/

namespace FeedWatch

open Relation

/-! ## Numbers of timers -/

/-- Timers of tasks bear numbers that were given out. -/
structure Schedule.Numbered (s : Schedule) : Prop where
  timers : ∀ t ∈ s.timers, ∀ i n, t.alarm = .ring i n → n < s.nextTimer
  queue : ∀ i n, .alarm (.ring i n) ∈ s.queue → n < s.nextTimer

namespace Schedule.Numbered

variable {s s' : Schedule}

lemma extend (h : s.Numbered) (hextends : s.Extends s') : s'.Numbered := by
  refine ⟨fun t' ht' i n halarm => ?_, fun i n hn => ?_⟩
  · obtain ⟨t, ht, -, halarm'⟩ | ⟨i', n', halarm', -, hlt⟩ := hextends.timers t' ht'
    · exact Nat.lt_of_lt_of_le (h.timers t ht i n (halarm'.trans halarm)) hextends.nextTimer
    · cases halarm'.symm.trans halarm
      exact hlt
  · exact Nat.lt_of_lt_of_le (h.queue i n (hextends.rings i n hn)) hextends.nextTimer

lemma follow (h : s.Numbered) (hfollows : s.Follows s') : s'.Numbered := by
  refine ⟨fun t ht i n halarm => ?_, fun i n hn => ?_⟩
  · rw [hfollows.nextTimer]
    exact h.timers t (hfollows.timers t ht) i n halarm
  · rw [hfollows.nextTimer]
    obtain hn | ⟨t, ht, halarm, -⟩ := hfollows.alarms _ hn
    · exact h.queue i n hn
    · exact h.timers t ht i n halarm

end Schedule.Numbered

namespace Engine

/-! ## The pace of a heartbeat -/

/-- So many intervals have passed since a time, and before the next text is sent, one more will
have: the timer that a heartbeat waits for is due an interval after a time at which so many had
passed. -/
structure InPace (interval since : Binary64) (k : Nat) (s : Schedule) (t : Task) : Prop where
  passed : Elapsed interval since k s.now
  ready : ∀ socket, t.work = .beat socket → t.wait.timer? = none →
    Elapsed interval since (k + 1) s.now
  set : ∀ socket n, t.work = .beat socket → t.wait.timer? = some n → n < s.nextTimer ∧
    (∀ timer ∈ s.timers, timer.alarm = .ring t.id n → ∃ time, Elapsed interval since k time ∧
      ReflTransGen Passes time s.now ∧ timer.due = time.add interval) ∧
    (.alarm (.ring t.id n) ∈ s.queue → Elapsed interval since (k + 1) s.now)

/-- The heartbeats on a socket keep the interval, counted from a time. -/
structure Paced (interval since : Binary64) (s k : Nat) (e : Engine) : Prop where
  timing : e.timing.heartbeatInterval = interval
  below : s < e.feed.sockets.length
  tasks : ∀ t ∈ e.tasks, t.cancelled = false → t.work.socket? = some s →
    InPace interval since k e.schedule t

variable {e e' : Engine} {s k n : Nat} {i : TaskId} {t t' : Task} {w : Work} {fifo : Prop}
variable {sch sch' : Schedule} {interval since : Binary64} {c : Call}

lemma InPace.extend (h : InPace interval since k sch t) (hextends : sch.Extends sch')
    (hid : t'.id = t.id) (hwork : t'.work = t.work) (htimer : t'.wait.timer? = t.wait.timer?) :
    InPace interval since k sch' t' := by
  refine ⟨hextends.now ▸ h.passed, fun socket hbeat hnone => ?_, fun socket n hbeat hn => ?_⟩
  · rw [hextends.now]
    exact h.ready socket (hwork ▸ hbeat) (htimer ▸ hnone)
  · obtain ⟨hlt, hdue, hrung⟩ := h.set socket n (hwork ▸ hbeat) (htimer ▸ hn)
    rw [hextends.now, hid]
    refine ⟨Nat.lt_of_lt_of_le hlt hextends.nextTimer, fun timer' ht' halarm => ?_,
      fun hn => hrung (hextends.rings _ _ hn)⟩
    obtain ⟨timer, ht, hdue', halarm'⟩ | ⟨i', n', halarm', hle, -⟩ := hextends.timers timer' ht'
    · rw [← hdue']
      exact hdue timer ht (halarm'.trans halarm)
    · cases halarm'.symm.trans halarm
      exact absurd hlt (Nat.not_lt.2 hle)

/-- When the timer is due, the interval has passed. -/
lemma InPace.follow (h : InPace interval since k sch t) (hfollows : sch.Follows sch') :
    InPace interval since k sch' t := by
  refine ⟨h.passed.forward hfollows.clock,
    fun socket hbeat hnone => (h.ready socket hbeat hnone).forward hfollows.clock,
    fun socket n hbeat hn => ?_⟩
  obtain ⟨hlt, hdue, hrung⟩ := h.set socket n hbeat hn
  have hdue' : ∀ timer ∈ sch.timers, timer.alarm = .ring t.id n → ∃ time,
      Elapsed interval since k time ∧ ReflTransGen Passes time sch'.now ∧
        timer.due = time.add interval := by
    intro timer ht halarm
    obtain ⟨time, helapsed, hpasses, hdue⟩ := hdue timer ht halarm
    exact ⟨time, helapsed, hpasses.trans hfollows.clock, hdue⟩
  refine ⟨hfollows.nextTimer ▸ hlt, fun timer ht => hdue' timer (hfollows.timers timer ht),
    fun hn => ?_⟩
  obtain hn | ⟨timer, ht, halarm, hcame⟩ := hfollows.alarms _ hn
  · exact (hrung hn).forward hfollows.clock
  · obtain ⟨time, helapsed, hpasses, hdue⟩ := hdue' timer ht halarm
    exact helapsed.interval hpasses (hdue ▸ hcame)

/-! ## What keeps the pace -/

namespace Paced

lemma aside (h : Paced interval since s k e) (haside : Aside s e e') :
    Paced interval since s k e' := by
  refine ⟨haside.timing ▸ h.timing, Nat.lt_of_lt_of_le h.below haside.sockets,
    fun t' ht' hgoing hs => ?_⟩
  obtain ⟨i, hbeats⟩ := haside.beats
  obtain ⟨t, ht, hcontinues⟩ | ⟨-, -, hnew, -⟩ := hbeats t' ht' hs
  · obtain ⟨hgoing, htimer⟩ := hcontinues.going hgoing
    exact (h.tasks t ht hgoing (hcontinues.work ▸ hs)).extend haside.schedule hcontinues.id
      hcontinues.work htimer
  · exact absurd h.below (Nat.not_lt.2 hnew)

lemma follow (h : Paced interval since s k e) (hfollows : e.schedule.Follows sch) :
    Paced interval since s k { e with schedule := sch } :=
  ⟨h.timing, h.below, fun t ht hgoing hs => (h.tasks t ht hgoing hs).follow hfollows⟩

/-- A timer goes off, and the interval of the heartbeat that waits for it has passed. -/
lemma ring (h : Paced interval since s k e) (hrung : ∀ t ∈ e.tasks, t.cancelled = false →
      t.work = .beat s → t.id = i → t.wait.timer? = some n →
      Elapsed interval since (k + 1) e.schedule.now) :
    Paced interval since s k (e.ring i n) := by
  have hextends : e.schedule.Extends (e.ring i n).schedule := extends_wake _ e
  refine ⟨h.timing, h.below, fun t' ht' hgoing hs => ?_⟩
  obtain ⟨t, ht, hid, hwork, hcancelled, hwait⟩ := mem_wake ht'
  have hgoing : t.cancelled = false := hcancelled ▸ hgoing
  have hpace := h.tasks t ht hgoing (hwork ▸ hs)
  obtain hwait | ⟨hq, hturn⟩ := hwait
  · exact hpace.extend hextends hid hwork (by rw [hwait])
  · obtain ⟨hi, htimer⟩ := Bool.and_eq_true_iff.1 hq
    refine ⟨hextends.now ▸ hpace.passed, fun socket hbeat _ => ?_, fun socket n _ hn => ?_⟩
    · have hsocket : socket = s := by
        rw [hbeat] at hs
        exact Option.some.inj hs
      rw [hextends.now]
      exact hrung t ht hgoing (by rw [← hwork, hbeat, hsocket]) (beq_iff_eq.1 hi)
        (by rw [beq_iff_eq.1 htimer]; rfl)
    · rw [hturn] at hn
      cases hn

/-- The heartbeat on a socket ends. -/
lemma finishTask (h : Paced interval since s k e) (hsole : Sole e) (ht : t ∈ e.tasks)
    (hs : t.work.socket? = some s) (k' : Nat) :
    Paced interval since s k' (e.finishTask t.id) := by
  refine ⟨h.timing, h.below, fun t' ht' _ hs' => ?_⟩
  obtain ⟨t₀, ht₀, hid, hwork, hne⟩ := mem_finishTask ht'
  exact absurd (hid.trans (hsole.single t₀ ht₀ t ht s (hwork ▸ hs') hs)) hne

/-- The heartbeat on a socket waits for a time; before its next text that is the interval. -/
lemma awaitTime {delay : Binary64} (h : Paced interval since s k e) (hsole : Sole e)
    (hnumbered : e.schedule.Numbered) (ht : t ∈ e.tasks) (hs : t.work.socket? = some s) {k' : Nat}
    (hpassed : Elapsed interval since k' e.schedule.now)
    (hdelay : ∀ socket, w = .beat socket → delay = interval) :
    Paced interval since s k' (e.awaitTime t.id w delay) := by
  have hother : ∀ t' ∈ e.tasks, t'.id ≠ t.id → t'.work.socket? ≠ some s :=
    fun t' ht' hne hs' => hne (hsole.single t' ht' t ht s hs' hs)
  rw [Engine.awaitTime]
  split_ifs with hvoid
  · refine ⟨h.timing, h.below, fun t' ht' _ hs' => ?_⟩
    obtain ⟨hold, hne⟩ | ⟨t₀, -, -, rfl⟩ := mem_alterTask ht'
    · exact absurd hs' (hother t' hold hne)
    · refine ⟨hpassed, fun socket hbeat _ => ?_, fun socket n _ hn => ?_⟩
      · rw [hdelay socket hbeat] at hvoid
        exact hpassed.void hvoid
      · cases hn
  · refine ⟨h.timing, h.below, fun t' ht' _ hs' => ?_⟩
    obtain ⟨hold, hne⟩ | ⟨t₀, -, hid, rfl⟩ := mem_alterTask ht'
    · exact absurd hs' (hother t' hold hne)
    · refine ⟨hpassed, fun socket _ hnone => ?_, fun socket n hbeat hn => ?_⟩
      · cases hnone
      · obtain rfl : e.schedule.nextTimer = n := Option.some.inj hn
        -- no other timer bears the number of the new one
        refine ⟨Nat.lt_succ_self _, fun timer htimer halarm => ?_, fun hring => ?_⟩
        · obtain hold | ⟨hdue, -⟩ := Schedule.timers_setTimer htimer
          · exact absurd (hnumbered.timers timer hold _ _ halarm) (Nat.lt_irrefl _)
          · exact ⟨e.schedule.now, hpassed, .refl,
              hdue.trans (congrArg (Binary64.add e.schedule.now) (hdelay socket hbeat))⟩
        · exact absurd (hnumbered.queue _ _ hring) (Nat.lt_irrefl _)

lemma sent (h : Paced interval since s k e) (hsole : Sole e) (hnumbered : e.schedule.Numbered)
    (ht : t ∈ e.tasks) (hs : t.work.socket? = some s) {k' : Nat}
    (hpassed : Elapsed interval since k' e.schedule.now) (failure : Option Failure) :
    Paced interval since s k' (e.sent t.id s failure) := by
  rw [Engine.sent]
  split_ifs
  · exact h.finishTask hsole ht hs k'
  · exact h.awaitTime (w := .beat s) hsole hnumbered ht hs hpassed fun _ _ => h.timing

lemma beat (h : Paced interval since s k e) (hsole : Sole e) (hnumbered : e.schedule.Numbered)
    (ht : t ∈ e.tasks) (hs : t.work.socket? = some s) {k' : Nat}
    (hpassed : Elapsed interval since k' e.schedule.now) :
    Paced interval since s k' (e.beat t.id s) := by
  have hlength := Feed.length_send s heartbeat e.feed
  have hsend : Paced interval since s k { e with feed := (e.feed.send s heartbeat).1 } :=
    ⟨h.timing, hlength.symm ▸ h.below, h.tasks⟩
  have hsole' : Sole { e with feed := (e.feed.send s heartbeat).1 } :=
    ⟨fun t ht s hs => hlength.symm ▸ hsole.below t ht s hs, hsole.single⟩
  rw [Engine.beat]
  dsimp only
  split_ifs
  · exact hsend.sent hsole' hnumbered ht hs hpassed _
  · exact hsend.awaitTime (w := .sent s _) hsole' hnumbered ht hs hpassed (by rintro _ ⟨⟩)

/-- The heartbeat on a socket takes its turn. -/
lemma runTask (h : Paced interval since s k e) (hsole : Sole e) (hnumbered : e.schedule.Numbered)
    (ht : t ∈ e.tasks) (hgoing : t.cancelled = false) (hs : t.work.socket? = some s) {k' : Nat}
    (hpassed : Elapsed interval since k' e.schedule.now) :
    Paced interval since s k' (e.runTask t) := by
  rw [Engine.runTask, if_neg (Bool.eq_false_iff.1 hgoing)]
  cases hwork : t.work with
  | rest socket =>
    obtain rfl : socket = s := by
      rw [hwork] at hs
      exact Option.some.inj hs
    exact h.awaitTime (w := .beat socket) hsole hnumbered ht hs hpassed fun _ _ => h.timing
  | beat socket =>
    obtain rfl : socket = s := by
      rw [hwork] at hs
      exact Option.some.inj hs
    exact h.beat hsole hnumbered ht hs hpassed
  | sent socket failure =>
    obtain rfl : socket = s := by
      rw [hwork] at hs
      exact Option.some.inj hs
    exact h.sent hsole hnumbered ht hs hpassed failure
  | _ => rw [hwork] at hs; cases hs

end Paced

/-! ## Runs in time -/

/-- Calls set timers, call them off, and let other calls join the queue. -/
lemma extends_make (hrest : Rest fifo e) (hsole : Sole e) (c : Call) :
    e.schedule.Extends (e.make c).schedule := by
  -- no heartbeat has the socket after the last one
  obtain haside | ⟨i, n, rfl⟩ | ⟨t, ht, -, -, hs, -⟩ := make_cases hrest c e.feed.sockets.length
  · exact haside.schedule
  · exact extends_wake _ e
  · exact absurd (hsole.below t ht _ hs) (Nat.lt_irrefl _)

/-- What holds of the schedule at the start, and is kept by planning and by calls, always holds. -/
lemma Reachable.ofSchedule {p : Schedule → Prop} (h : Reachable InTime e) (hstart : p .start)
    (hfollow : ∀ s s' : Schedule, p s → s.Follows s' → p s')
    (hextend : ∀ s s' : Schedule, p s → s.Extends s' → p s') : p e.schedule := by
  obtain ⟨e₀, hfresh, hsteps⟩ := h
  induction hsteps with
  | refl =>
    obtain ⟨timing, epoch, store, disk, network, script, session, pipeline, -⟩ := hfresh
    exact hstart
  | @tail e e' hsteps hstep ih =>
    have hreach : Reachable InAnyOrder e := Reachable.anyOrder ⟨e₀, hfresh, hsteps⟩
    obtain hcall | haside | ⟨feed, network, disk, -, rfl⟩ :=
      hstep.cases_of_rest hreach.rest 0
    · cases hcall with
      | plan s hplan => exact hfollow _ _ ih hplan
      | call c s hplan _ _ =>
        have hplanned := hreach.step (.call (.plan s))
        exact hextend _ _ (hfollow _ _ ih hplan)
          (extends_make hplanned.rest hplanned.pulse.toSole c)
    · exact hextend _ _ ih haside.schedule
    · exact ih

lemma Reachable.numbered (h : Reachable InTime e) : e.schedule.Numbered :=
  h.ofSchedule ⟨fun t ht => absurd ht (Array.not_mem_empty t), by nofun⟩
    (fun _ _ => Schedule.Numbered.follow) fun _ _ => Schedule.Numbered.extend

/-- The clock begins at zero, and shows a number. -/
lemma Reachable.clock (h : Reachable InTime e) :
    e.schedule.now.isFinite = true ∧ 0 ≤ e.schedule.now.value := by
  refine h.ofSchedule (p := fun s => s.now.isFinite = true ∧ 0 ≤ s.now.value) ⟨rfl, ?_⟩
    (fun s s' hs hfollows => ?_) fun s s' hs hextends => ?_
  · exact mul_nonneg zero_le_one (mul_nonneg le_rfl (zpow_pos two_pos _).le)
  · obtain ⟨hfinite, hle⟩ := value_le_of_passes hs.1 hfollows.clock
    exact ⟨hfinite, hs.2.trans hle⟩
  · rw [hextends.now]
    exact hs

lemma InTime.callFirst {queue : List Call} (hrest : Rest True e)
    (hqueue : e.schedule.queue = c :: queue) (left : Nat) :
    InTime e (make c { e with schedule := { e.schedule with queue, left } }) := by
  refine .call c _ (Schedule.follows_rest hqueue left) (fun i hc => ?_) fun a _ => ?_
  · obtain ⟨t, ht, rfl, hwait⟩ := hrest.head hqueue hc
    exact ⟨t, hrest.orderly.task?_of_mem ht, hwait⟩
  · exact hqueue ▸ List.mem_cons_self

/-- The next call of the schedule is made in time. -/
lemma Scheduled.inTime (h : Scheduled e e') (hrest : Rest True e) : ReflTransGen InTime e e' := by
  obtain ⟨mayMove, h⟩ := h
  obtain ⟨s, c, queue, hs, hqueue, rfl⟩ := cases_of_step? h
  obtain rfl | hround := hs
  · exact .single (.callFirst hrest hqueue _)
  · have hbegin : Rest True { e with schedule := s } := by
      obtain ⟨alarms, halarms⟩ := queue_beginRound mayMove e.schedule
      exact hrest.inOrder (.due alarms s (hround ▸ halarms))
    have hplan : InTime e { e with schedule := s } :=
      .plan s (hround ▸ Schedule.follows_beginRound mayMove _)
    exact (ReflTransGen.single hplan).tail (.callFirst hbegin hqueue _)

/-- What the engine does is a run in time. -/
theorem Reachable.inTime (h : Reachable Scheduled e) : Reachable InTime e :=
  h.mono fun _ _ hscheduled hreach hcall =>
    hreach.steps (hcall.inTime hscheduled.inOrder.rest_inOrder)

end Engine

end FeedWatch
