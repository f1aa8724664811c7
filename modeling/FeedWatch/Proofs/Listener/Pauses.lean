import FeedWatch.Proofs.Engine.Touches
import FeedWatch.Proofs.Listener.Intervals
import FeedWatch.Proofs.Listener.Links

/-!
# Pauses end on time

A pause before a reconnect waits for a timer of its own, or for its turn.  `OnTime` says that a
delay after some time is over at another time, and not long over; `Engine.Timely` says of the task
of the connection that it connects on time after the listener was disconnected last.  Main
statements: it does so when calls are made that are not its own (`Timely.apart`), when its timer
goes off (`Timely.ring`), and when it takes its turn (`Timely.due`).
-/

namespace FeedWatch

/-- A delay since some time is over, as close as timers go off, and the clock has not passed its
end.  A delay that is not positive is over at once. -/
def OnTime (delay since now : Binary64) : Prop :=
  (delay.isZero || delay.isNegative) = true ∧ now = since ∨
    IsDue now (since.add delay) ∧ (now = since ∨ (since.add delay).isBelow now = false)

namespace Schedule

variable {s s' : Schedule} {off : Nat → Prop} {mayMove : Bool} {c d : Call}

lemma Touches.extends (h : Touches off s s') : s.Extends s' := by
  induction h with
  | refl => exact .refl s
  | append calls hcalls _ ih => exact ih.trans (.append calls hcalls)
  | setTimer delay i _ ih => exact ih.trans (.setTimer delay i)
  | callOff n _ _ ih => exact ih.trans (.callOff n)

/-- Planning the next call leaves the timers numbered and due at numbers. -/
lemma numbered_next? (hsane : s.Sane) (hnumeric : s.IsNumeric) (hnumbered : s.Numbered)
    (hnext : s.next? mayMove = some (c, s')) :
    s'.IsNumeric ∧ s'.Numbered ∧ s'.nextTimer = s.nextTimer := by
  obtain ⟨r, queue, hbegins, hqueue, rfl⟩ := cases_of_next? hsane hnumeric hnext
  refine ⟨fun t ht => hnumeric t (hbegins.follows.timers t ht), ?_, hbegins.follows.nextTimer⟩
  exact (hnumbered.follow hbegins.follows).follow (follows_rest hqueue _)

/-- While a call stands in the queue the clock stands, until it is its turn. -/
lemma stands_next? (hsane : s.Sane) (hnumeric : s.IsNumeric)
    (hnext : s.next? mayMove = some (c, s')) (hd : d ∈ s.queue) :
    s'.now = s.now ∧ (c = d ∨ d ∈ s'.queue) := by
  obtain ⟨r, queue, hbegins, hqueue, rfl⟩ := cases_of_next? hsane hnumeric hnext
  have hmem := hbegins.queue.subset hd
  rw [hqueue] at hmem
  exact ⟨hbegins.stands (List.ne_nil_of_mem hd), (List.mem_cons.1 hmem).imp_left Eq.symm⟩

end Schedule

namespace Engine

variable {e e' : Engine} {t t' : Task} {s : Schedule} {mayMove : Bool} {c : Call}
variable {delay since : Binary64} {entered : Option Binary64} {off : Nat → Prop} {i : TaskId}

/-! ## Schedules in order -/

/-- The schedule is in order, and tasks wait for timers that were given out. -/
structure Punctual (e : Engine) : Prop where
  sane : e.schedule.Sane
  numeric : e.schedule.IsNumeric
  numbered : e.schedule.Numbered
  given : TimersGiven e

lemma IsFresh.punctual (h : IsFresh e) : Punctual e := by
  obtain ⟨timing, epoch, store, disk, network, script, session, pipeline, -⟩ := h
  refine ⟨⟨rfl, ?_, Nat.le_refl 0⟩, fun t ht => ?_, ⟨fun t ht => ?_, by nofun⟩, fun t ht n hn => ?_⟩
  · intro i x y _ _ hx
    cases hx
  · cases Array.not_mem_empty t ht
  · cases Array.not_mem_empty t ht
  · rw [List.mem_singleton.1 ht] at hn
    cases hn

/-- What the engine does keeps the schedule in order, if its timers are due at numbers. -/
lemma Punctual.touch (h : Punctual e) (htouched : Touched off e e')
    (hnumeric : e'.schedule.IsNumeric) : Punctual e' :=
  ⟨h.sane.touch htouched.schedule hnumeric, hnumeric, h.numbered.extend htouched.schedule.extends,
    h.given.touch htouched⟩

lemma Punctual.plan (h : Punctual e) (hnext : e.schedule.next? mayMove = some (c, s)) :
    Punctual { e with schedule := s } := by
  obtain ⟨hnumeric, hnumbered, hnumber⟩ :=
    Schedule.numbered_next? h.sane h.numeric h.numbered hnext
  refine ⟨h.sane.next? h.numeric hnext, hnumeric, hnumbered, fun t ht n hn => ?_⟩
  show n < s.nextTimer
  rw [hnumber]
  exact h.given t ht n hn

lemma Punctual.step (h : Punctual e) (hstep : Step Scheduled e e')
    (hnumeric : e'.schedule.IsNumeric) : Punctual e' := by
  obtain ⟨mayMove, hcall⟩ | htouched : Scheduled e e' ∨ Touched (fun _ => False) e e' :=
    hstep.touches
  · rw [step?] at hcall
    split at hcall
    · cases hcall
    · rename_i c s hnext
      cases hcall
      exact (h.plan hnext).touch (touches_make c _) hnumeric
  · exact h.touch htouched hnumeric

/-- When the turn of a task is the next call, the task waits for it and is ready. -/
lemma Rest.readyNext (h : Rest True e) (hnext : e.schedule.next? mayMove = some (.turn i, s))
    (ht : t ∈ e.tasks) (hid : t.id = i) :
    t.wait = .turn ∧ Ready True t { e with schedule := s } := by
  subst hid
  have hready : ∀ r : Schedule, Rest True { e with schedule := r } → ∀ queue,
      r.queue = .turn t.id :: queue → ∀ s : Schedule, s.queue = queue →
        t.wait = .turn ∧ Ready True t { e with schedule := s } := by
    intro r hrest queue hqueue s hs
    obtain ⟨t', ht', hid', hwait⟩ := hrest.head hqueue rfl
    obtain rfl : t' = t := List.inj_on_of_nodup_map h.orderly.unique ht' ht hid'
    exact ⟨hwait, hrest.readyFirst (hs ▸ hqueue) ht hwait⟩
  rw [Schedule.next?] at hnext
  split_ifs at hnext
  · split at hnext
    · cases hnext
    · rename_i queue hqueue
      cases hnext
      obtain ⟨alarms, halarms⟩ := queue_beginRound mayMove e.schedule
      exact hready _ (h.inOrder (.due alarms _ halarms)) queue hqueue _ rfl
  · split at hnext
    · cases hnext
    · rename_i queue hqueue
      cases hnext
      exact hready _ h queue hqueue _ rfl

/-! ## On time -/

/-- What a task that stands in the queue is about to do is due, if the listener was disconnected at
some time last. -/
def IsDueTo (delay : Binary64) (entered : Option Binary64) (now : Binary64) : Work → Prop
  | .connect => ∀ since, entered = some since → OnTime delay since now
  | .pause => entered = some now
  | .reconnect => ∃ since, entered = some since ∧ OnTime delay since now
  | _ => True

/-- The task of the connection stands in the queue and is due to what it does next, or waits for the
timer of a pause, or an attempt is there that is not lost, or a connection is being closed. -/
inductive Timely (delay : Binary64) (entered : Option Binary64) (t : Task) (e : Engine) : Prop
  | stands (hwait : t.wait = .turn) (hqueue : .turn t.id ∈ e.schedule.queue)
    (hdue : IsDueTo delay entered e.schedule.now t.work)
  | pends (since : Binary64) (n : Nat) (hwork : t.work = .reconnect) (hentered : entered = some since)
    (hwait : t.wait = .timer n) (hawaits : e.schedule.Awaits t.id n since (since.add delay))
    (hsole : ∀ t' ∈ e.tasks, t'.timer = some n → t'.id = t.id)
  | open (hopen : t.work.ahead + t.work.owes = 1) (hwork : t.work ≠ .connect)

/-- Another call comes next. -/
lemma Timely.plan (h : Timely delay entered t e) (hpunctual : Punctual e)
    (hnext : e.schedule.next? mayMove = some (c, s)) (hturn : c ≠ .turn t.id)
    (hring : ∀ n, c = .alarm (.ring t.id n) → t.wait ≠ .timer n) :
    Timely delay entered t { e with schedule := s } := by
  obtain ⟨hsane, hnumeric, -, -⟩ := hpunctual
  cases h with
  | stands hwait hqueue hdue =>
    obtain ⟨hnow, hstands⟩ := Schedule.stands_next? hsane hnumeric hnext hqueue
    refine .stands hwait (hstands.resolve_left hturn) ?_
    show IsDueTo delay entered s.now t.work
    rw [hnow]
    exact hdue
  | pends since n hwork hentered hwait hawaits hsole =>
    have hother : c ≠ .alarm (.ring t.id n) := fun hc => hring n hc hwait
    exact .pends since n hwork hentered hwait (hawaits.next? hsane hnumeric hnext hother) hsole
  | «open» hopen hwork => exact .open hopen hwork

/-- Whatever happens apart from the task of the connection leaves it on time. -/
lemma Timely.apart (h : Timely delay entered t e) (hstays : t.Stays t') (htouched : Touched off e e')
    (hoff : ∀ n, off n → ∃ t' ∈ e.tasks, t'.timer = some n ∧ t'.id ≠ t.id) :
    Timely delay entered t' e' := by
  obtain ⟨hnow, -, -, hqueue'⟩ := htouched.schedule.queue
  cases h with
  | stands hwait hqueue hdue =>
    refine .stands (hstays.turn hwait) ?_ ?_
    · rw [hstays.id]
      exact hqueue'.subset hqueue
    · rw [hstays.work, hnow]
      exact hdue
  | pends since n hwork hentered hwait hawaits hsole =>
    refine .pends since n (hstays.work.trans hwork) hentered (hstays.timed n hwait) ?_ ?_
    · rw [hstays.id]
      refine hawaits.touch htouched.schedule fun hn => ?_
      obtain ⟨t₁, ht₁, htimer, hne⟩ := hoff n hn
      exact hne (hsole t₁ ht₁ htimer)
    · intro t₁ ht₁ htimer
      rw [hstays.id]
      obtain ⟨t₂, ht₂, hid, htimer⟩ | ⟨hle, -⟩ := htouched.timers t₁ ht₁ n htimer
      · exact hid.symm.trans (hsole t₂ ht₂ htimer)
      · exact absurd hawaits.number (Nat.not_lt.2 hle)
  | «open» hopen hwork =>
    rw [← hstays.work] at hopen hwork
    exact .open hopen hwork

/-- The timer goes off that the task of the connection waits for. -/
lemma Timely.ring {n : Nat} (h : Timely delay entered t e) (hpunctual : Punctual e)
    (hnext : e.schedule.next? mayMove = some (.alarm (.ring t.id n), s)) (hwait : t.wait = .timer n)
    (hqueue : .turn t.id ∈ e'.schedule.queue) (hnow : e'.schedule.now = s.now) :
    Timely delay entered { t with wait := .turn } e' := by
  obtain ⟨hsane, hnumeric, -, -⟩ := hpunctual
  cases h with
  | stands hturn _ _ =>
    rw [hwait] at hturn
    cases hturn
  | pends since m hwork hentered hwait' hawaits _ =>
    cases hwait.symm.trans hwait'
    refine .stands rfl hqueue ?_
    show IsDueTo delay entered e'.schedule.now t.work
    rw [hwork, hnow]
    exact ⟨since, hentered, .inr (hawaits.ring hsane hnumeric hnext)⟩
  | «open» hopen hwork => exact .open hopen hwork

/-- When it is the turn of the task of the connection, it is due to what it does. -/
lemma Timely.due (h : Timely delay entered t e) (hpunctual : Punctual e)
    (hnext : e.schedule.next? mayMove = some (.turn t.id, s)) (hwait : t.wait = .turn) :
    IsDueTo delay entered s.now t.work := by
  obtain ⟨hsane, hnumeric, -, -⟩ := hpunctual
  cases h with
  | stands _ hqueue hdue =>
    rw [(Schedule.stands_next? hsane hnumeric hnext hqueue).1]
    exact hdue
  | pends _ _ _ _ htimer _ _ =>
    rw [hwait] at htimer
    cases htimer
  | «open» hopen hwork =>
    cases hw : t.work with
    | connect => exact absurd hw hwork
    | pause =>
      rw [hw] at hopen
      cases hopen
    | reconnect =>
      rw [hw] at hopen
      cases hopen
    | _ => trivial

/-- A pause that begins to wait is over when the delay is. -/
lemma Linked.timely_awaitTime (h : Linked t e) (hpunctual : Punctual e) (delay : Binary64) :
    ∃ t', Linked t' (e.awaitTime t.id .reconnect delay) ∧ t'.work = .reconnect ∧
      Timely delay (some e.schedule.now) t' (e.awaitTime t.id .reconnect delay) := by
  obtain ⟨t', ht', hwork, hid, hwaits⟩ := h.awaitTime (w := .reconnect) ⟨.pausing, rfl⟩ delay
  refine ⟨t', ht', hwork, ?_⟩
  split_ifs at hwaits with hvoid
  · obtain ⟨hwait, hqueue⟩ := hwaits
    refine .stands hwait (hid ▸ hqueue) ?_
    rw [hwork]
    have htouched : Touched (fun _ => False) e (e.awaitTime t.id .reconnect delay) :=
      touches_awaitTime t.id .reconnect delay e
    exact ⟨e.schedule.now, rfl, .inl ⟨hvoid, htouched.schedule.queue.1⟩⟩
  · obtain ⟨hwait, -, hschedule⟩ := hwaits
    refine .pends e.schedule.now e.schedule.nextTimer hwork rfl hwait ?_ ?_
    · rw [hid, hschedule]
      refine Schedule.awaits_setTimer (fun timer htimer halarm => ?_) (fun hring => ?_) delay
      · exact Nat.lt_irrefl _ (hpunctual.numbered.timers timer htimer _ _ halarm)
      · exact Nat.lt_irrefl _ (hpunctual.numbered.queue _ _ hring)
    · intro t₁ ht₁ htimer
      rw [Engine.awaitTime, if_neg hvoid] at ht₁
      rw [hid]
      obtain ⟨hold, -⟩ | ⟨t₀, -, hid₀, rfl⟩ := mem_alterTask ht₁
      · exact absurd (hpunctual.given t₁ hold _ htimer) (Nat.lt_irrefl _)
      · exact hid₀

/-- The task of the connection of a listener that is disconnected is about to connect or pauses. -/
lemma Steady.rests (h : Steady t e) (hphase : (e.listener 0).phase = .disconnected) :
    t.work = .connect ∨ t.work = .pause ∨ t.work = .reconnect := by
  have hother : ∀ p, t.work.phase? = some p → p = .disconnected :=
    fun p hp => (h.phase p hp).symm.trans hphase
  obtain hopen | hrests := h.cases
  · cases hwork : t.work with
    | connect => exact .inl rfl
    | connected a =>
      rw [hwork] at hother
      cases hother .connecting rfl
    | read socket =>
      rw [hwork] at hother
      cases hother .connected rfl
    | closed failure =>
      rw [hwork] at hother
      cases hother .connected rfl
    | _ =>
      rw [hwork] at hopen
      cases hopen
  · exact .inr hrests

/-- An attempt that is there while the listener is disconnected is about to be made. -/
lemma Steady.connect_of_open (h : Steady t e) (hopen : t.work.ahead + t.work.owes = 1)
    (hphase : (e.listener 0).phase = .disconnected) : t.work = .connect := by
  obtain hwork | hwork | hwork := h.rests hphase
  · exact hwork
  · rw [hwork] at hopen
    cases hopen
  · rw [hwork] at hopen
    cases hopen

/-- While the listener is disconnected, the clock does not pass the end of the pause. -/
lemma Timely.past (h : Timely delay (some since) t e) (ht : Steady t e)
    (hphase : (e.listener 0).phase = .disconnected) :
    e.schedule.now = since ∨ (since.add delay).isBelow e.schedule.now = false := by
  have honTime : ∀ {now}, OnTime delay since now →
      now = since ∨ (since.add delay).isBelow now = false := by
    rintro now (⟨-, hnow⟩ | ⟨-, hpast⟩)
    · exact .inl hnow
    · exact hpast
  cases h with
  | stands _ _ hdue =>
    obtain hwork | hwork | hwork := ht.rests hphase
    · rw [hwork] at hdue
      exact honTime (hdue since rfl)
    · rw [hwork] at hdue
      exact .inl (Option.some.inj hdue).symm
    · rw [hwork] at hdue
      obtain ⟨_, ⟨⟩, hdue⟩ := hdue
      exact honTime hdue
  | pends _ n _ hentered _ hawaits _ =>
    cases hentered
    exact hawaits.past
  | «open» hopen hconnect => exact absurd (ht.connect_of_open hopen hphase) hconnect

end Engine

end FeedWatch
