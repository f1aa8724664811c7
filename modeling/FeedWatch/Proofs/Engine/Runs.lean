import FeedWatch.Engine.Basic
import Mathlib.Logic.Relation
import Mathlib.Tactic.Common

/-!
# Runs of the engine

A run of the listener is a sequence of calls made by the schedule, and of what the party outside and
the world do between them.  Calls are made in any order (`InAnyOrder`), in the order of the queue
(`InOrder`), or as the engine makes them (`Scheduled`).  Main statements: making calls until the
party outside is awake is a run (`Reachable.run`), and what the engine does is a run in the order of
the queue (`Reachable.inOrder`).
-/

namespace FeedWatch

namespace Engine

open Relation

/-- Some call is made, at any time, or the schedule is another one.  A task takes its turn only when
it does not wait for something else; a timer may go off at any time. -/
inductive InAnyOrder (e : Engine) : Engine → Prop
  | call (c : Call) (hturn : ∀ i, c = .turn i → ∃ t, e.task? i = some t ∧ t.wait = .turn) :
    InAnyOrder e (e.make c)
  | plan (s : Schedule) : InAnyOrder e { e with schedule := s }

/-- The first call in the queue is made, or timers go off and join its end. -/
inductive InOrder (e : Engine) : Engine → Prop
  | call (c : Call) (s : Schedule) (hqueue : e.schedule.queue = c :: s.queue) :
    InOrder e ({ e with schedule := s }.make c)
  | due (alarms : List Alarm) (s : Schedule)
    (hqueue : s.queue = e.schedule.queue ++ alarms.map Call.alarm) :
    InOrder e { e with schedule := s }

/-- The engine makes the next call of its schedule. -/
def Scheduled (e e' : Engine) : Prop :=
  ∃ mayMove, e.step? mayMove = some e'

/-- What may happen at a moment, when `next` tells how calls are made.  The party outside starts and
stops the listener, and sleeps, only while it is awake, so not while it stops the listener; to stop
a listener that is not running would change nothing then.  The world may change at any time: what
arrives, how attempts and sockets fare from now on, the network and the disk. -/
inductive Step (next : Engine → Engine → Prop) : Engine → Engine → Prop
  | call {e e' : Engine} (h : next e e') : Step next e e'
  | start (e : Engine) (hawake : e.isAwake = true) : Step next e (e.startListener 0)
  | stop (e : Engine) (hawake : e.isAwake = true) :
    Step next e ({ e with failure := none }.stopListening 0)
  | sleep (e : Engine) (hawake : e.isAwake = true) (delay : Binary64) :
    Step next e { e.awaitTime outside .outside delay with isAwake := false }
  | refresher (e : Engine) : Step next e (e.startRefresher 0)
  | arrive (e : Engine) (a : Arrival) : Step next e (e.arrive a)
  | operate {α : Type} (e : Engine) (s : Station) (f : Session → Session × α) :
    Step next e (e.operate 0 s f).1
  | world (e : Engine) (feed : Feed) (network : Http.Network) (disk : Disk)
    (hclosings : feed.sockets.map Socket.closings = e.feed.sockets.map Socket.closings)
    (hread : feed.read = e.feed.read) : Step next e { e with feed, network, disk }

/-- A listener that was never started, at a feed of which nothing was read. -/
inductive IsFresh : Engine → Prop
  | intro (timing : Timing) (epoch : Int) (store : Store) (disk : Disk) (network : Http.Network)
    (script : List Attempt) (session : Session) (pipeline : Pipeline)
    (hreceived : pipeline.received = []) :
    IsFresh ((start timing epoch store disk network (.ofScript script)).addStation session pipeline)

/-- A state that a run of a listener comes to. -/
def Reachable (next : Engine → Engine → Prop) (e : Engine) : Prop :=
  ∃ e₀, IsFresh e₀ ∧ ReflTransGen (Step next) e₀ e

variable {next next' : Engine → Engine → Prop} {e e' : Engine}

lemma Reachable.step (h : Reachable next e) (hstep : Step next e e') : Reachable next e' := by
  obtain ⟨e₀, hfresh, hsteps⟩ := h
  exact ⟨e₀, hfresh, hsteps.tail hstep⟩

lemma Reachable.steps (h : Reachable next e) (hsteps : ReflTransGen next e e') :
    Reachable next e' := by
  induction hsteps with
  | refl => exact h
  | tail _ hnext ih => exact ih.step (.call hnext)

/-- What one way to make calls reaches, another one does too that can do the same. -/
lemma Reachable.mono (h : Reachable next e) (hnext : ∀ e e', Reachable next e →
    Reachable next' e → next e e' → Reachable next' e') : Reachable next' e := by
  obtain ⟨e₀, hfresh, hsteps⟩ := h
  induction hsteps with
  | refl => exact ⟨e₀, hfresh, .refl⟩
  | tail hsteps hstep ih =>
    cases hstep with
    | call hcall => exact hnext _ _ ⟨e₀, hfresh, hsteps⟩ ih hcall
    | start _ hawake => exact ih.step (.start _ hawake)
    | stop _ hawake => exact ih.step (.stop _ hawake)
    | sleep _ hawake delay => exact ih.step (.sleep _ hawake delay)
    | refresher => exact ih.step (.refresher _)
    | arrive _ a => exact ih.step (.arrive _ a)
    | operate _ s f => exact ih.step (.operate _ s f)
    | world _ feed network disk hclosings hread =>
      exact ih.step (.world _ feed network disk hclosings hread)

/-- The first call in the queue is made. -/
lemma Reachable.callFirst {c : Call} {queue : List Call} (h : Reachable InOrder e)
    (hqueue : e.schedule.queue = c :: queue) :
    Reachable InOrder (make c { e with schedule := { e.schedule with queue } }) :=
  h.step (.call (.call c { e.schedule with queue } hqueue))

/-! ## The schedule makes calls in order -/

lemma queue_dropFront (fuel : Nat) (s : Schedule) : (s.dropFront fuel).queue = s.queue := by
  induction fuel generalizing s with
  | zero => rfl
  | succ fuel ih =>
    rw [Schedule.dropFront]
    split
    · split_ifs
      · exact ih _
      · rfl
    · rfl

lemma queue_tidy (s : Schedule) : s.tidy.queue = s.queue := by
  rw [Schedule.tidy]
  split_ifs
  · rfl
  · exact queue_dropFront _ s

lemma queue_moveClock (s : Schedule) : s.moveClock.queue = s.queue := by
  rw [Schedule.moveClock]
  split
  · split_ifs
    · rfl
    · rfl
  · rfl

/-- A round begins once the schedule is tidy and the clock has moved, if nothing is queued; then the
alarms of the timers that are due join the queue. -/
lemma exists_beginRound (mayMove : Bool) (s : Schedule) :
    ∃ (r : Schedule) (alarms : List Alarm) (timers : Array Timer),
      (s.queue = [] ∧ r = s.tidy.moveClock ∨ r = s.tidy) ∧
      Schedule.popDue (r.now.add Schedule.grain) r.timers.size r.timers = (alarms, timers) ∧
      s.beginRound mayMove = { r with
        queue := s.queue ++ alarms.map .alarm
        timers
        left := (s.queue ++ alarms.map Call.alarm).length } := by
  obtain ⟨r, hr⟩ : ∃ r, r = if s.tidy.queue.isEmpty && mayMove then s.tidy.moveClock else s.tidy :=
    ⟨_, rfl⟩
  have hcases : s.queue = [] ∧ r = s.tidy.moveClock ∨ r = s.tidy := by
    rw [hr]
    split_ifs with hmoves
    · rw [Bool.and_eq_true, List.isEmpty_iff, queue_tidy] at hmoves
      exact .inl ⟨hmoves.1, rfl⟩
    · exact .inr rfl
  have hqueue : r.queue = s.queue := by
    obtain ⟨-, rfl⟩ | rfl := hcases
    · exact (queue_moveClock _).trans (queue_tidy s)
    · exact queue_tidy s
  refine ⟨r, _, _, hcases, rfl, ?_⟩
  rw [← hqueue, hr]
  rfl

/-- A round begins with the calls in the queue and those of the timers that are due. -/
lemma queue_beginRound (mayMove : Bool) (s : Schedule) :
    ∃ alarms : List Alarm, (s.beginRound mayMove).queue = s.queue ++ alarms.map .alarm := by
  obtain ⟨r, alarms, timers, -, -, hbegin⟩ := exists_beginRound mayMove s
  exact ⟨alarms, congrArg Schedule.queue hbegin⟩

/-- The first call in the queue is made, perhaps after a round has begun. -/
lemma cases_of_step? {mayMove : Bool} (h : e.step? mayMove = some e') :
    ∃ (s : Schedule) (c : Call) (queue : List Call),
      (s = e.schedule ∨ s = e.schedule.beginRound mayMove) ∧ s.queue = c :: queue ∧
        e' = make c { e with schedule := { s with queue, left := s.left - 1 } } := by
  rw [step?] at h
  split at h
  · cases h
  · rename_i c schedule hnext
    cases h
    rw [Schedule.next?] at hnext
    split_ifs at hnext
    · split at hnext
      · cases hnext
      · rename_i c' queue hqueue
        cases hnext
        exact ⟨_, _, _, .inr rfl, hqueue, rfl⟩
    · split at hnext
      · cases hnext
      · rename_i c' queue hqueue
        cases hnext
        exact ⟨_, _, _, .inl rfl, hqueue, rfl⟩

/-- The next call of the schedule is some call. -/
lemma Scheduled.eq_make (h : Scheduled e e') :
    ∃ c schedule, e' = make c { e with schedule := schedule } := by
  obtain ⟨mayMove, h⟩ := h
  obtain ⟨s, c, queue, -, -, rfl⟩ := cases_of_step? h
  exact ⟨c, _, rfl⟩

/-- The next call of the schedule is made in order. -/
lemma Scheduled.inOrder (h : Scheduled e e') : ReflTransGen InOrder e e' := by
  obtain ⟨mayMove, h⟩ := h
  obtain ⟨s, c, queue, rfl | rfl, hqueue, rfl⟩ := cases_of_step? h
  · exact .single (.call c _ hqueue)
  · obtain ⟨alarms, halarms⟩ := queue_beginRound mayMove e.schedule
    have hdue : InOrder e { e with schedule := e.schedule.beginRound mayMove } :=
      .due alarms _ halarms
    exact (ReflTransGen.single hdue).tail (.call c _ hqueue)

/-- What the engine does is a run in order. -/
theorem Reachable.inOrder (h : Reachable Scheduled e) : Reachable InOrder e :=
  h.mono fun _ _ _ hreach hcall => hreach.steps hcall.inOrder

/-- Making calls until the party outside is awake makes the calls of the schedule. -/
lemma scheduled_run (e : Engine) : ReflTransGen Scheduled e e.run := by
  have hwithin : ∀ fuel e, ReflTransGen Scheduled e (e.runWithin fuel) := by
    intro fuel
    induction fuel with
    | zero => exact fun _ => .refl
    | succ fuel ih =>
      intro e
      rw [runWithin]
      split_ifs
      · exact .refl
      · split
        next => exact .refl
        next hstep => exact .head ⟨true, hstep⟩ (ih _)
  exact hwithin _ e

/-- Making calls while the clock stands still makes the calls of the schedule. -/
lemma scheduled_settle (e : Engine) : ReflTransGen Scheduled e e.settle := by
  have hwithin : ∀ fuel e, ReflTransGen Scheduled e (e.settleWithin fuel) := by
    intro fuel
    induction fuel with
    | zero => exact fun _ => .refl
    | succ fuel ih =>
      intro e
      rw [settleWithin]
      split_ifs
      · exact .refl
      · split
        next => exact .refl
        next hstep => exact .head ⟨false, hstep⟩ (ih _)
  exact hwithin _ e

/-- Making calls until the party outside is awake is a run. -/
theorem Reachable.run (h : Reachable Scheduled e) : Reachable Scheduled e.run :=
  h.steps (scheduled_run e)

end Engine

end FeedWatch
