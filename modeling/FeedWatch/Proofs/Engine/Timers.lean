import FeedWatch.Proofs.Engine.Runs
import FeedWatch.Proofs.Number.Rounding

/-!
# Timers go off in time

A heap holds what was put into it, so the schedule takes from its heap of timers only those that
are due, and the clock only moves on.  `Schedule.Follows` says what planning may do to a schedule,
and `Schedule.Extends` what tasks do that set timers and call them off.  `Engine.InTime` is a run in
which calls are made in any order, but no timer goes off before it is due.  `Elapsed` says that so
many intervals have passed on the clock, and `Elapsed.value_le` what that says of their values.
-/

namespace FeedWatch

open Relation

/-! ## What a heap holds -/

namespace Heap

variable {α : Type} {before : α → α → Bool} {x y : α} {heap : Array α}

lemma mem_setIfInBounds {i : Nat} (h : y ∈ heap.setIfInBounds i x) : y = x ∨ y ∈ heap :=
  (Array.mem_or_eq_of_mem_setIfInBounds h).symm

lemma mem_rise {top i : Nat} (h : y ∈ rise before top x i heap) : y = x ∨ y ∈ heap := by
  fun_induction rise before top x i heap with
  | case1 i heap hi => exact mem_setIfInBounds h
  | case2 i heap hi hnone => exact mem_setIfInBounds h
  | case3 i heap hi above habove hbefore ih =>
    obtain hx | hmem := ih h
    · exact .inl hx
    · obtain rfl | hmem := mem_setIfInBounds hmem
      · exact .inr (Array.mem_of_getElem? habove)
      · exact .inr hmem
  | case4 i heap hi above habove hbefore => exact mem_setIfInBounds h

lemma mem_sink {i : Nat} (h : y ∈ (sink before i heap).2) : y ∈ heap := by
  fun_induction sink before i heap with
  | case1 i heap hl left hr right hbefore ih =>
    obtain rfl | hmem := mem_setIfInBounds (ih h)
    · exact Array.getElem_mem hl
    · exact hmem
  | case2 i heap hl left hr right hbefore ih =>
    obtain rfl | hmem := mem_setIfInBounds (ih h)
    · exact Array.getElem_mem hr
    · exact hmem
  | case3 i heap hl left hr ih =>
    obtain rfl | hmem := mem_setIfInBounds (ih h)
    · exact Array.getElem_mem hl
    · exact hmem
  | case4 i heap hl => exact h

lemma mem_fill {i : Nat} (h : y ∈ fill before x i heap) : y = x ∨ y ∈ heap :=
  (mem_rise h).imp_right mem_sink

lemma mem_push (h : y ∈ push before x heap) : y = x ∨ y ∈ heap := by
  obtain hx | hmem := mem_rise h
  · exact .inl hx
  · exact (Array.mem_push.1 hmem).symm

lemma mem_pop (h : y ∈ heap.pop) : y ∈ heap := by
  obtain ⟨i, hi, rfl⟩ := Array.mem_iff_getElem.1 h
  rw [Array.getElem_pop]
  exact Array.getElem_mem _

lemma mem_of_pop?_eq_some {rest : Array α} (h : pop? before heap = some (x, rest)) :
    x ∈ heap ∧ ∀ y ∈ rest, y ∈ heap := by
  rw [pop?] at h
  split at h
  · rename_i first last hfirst hlast
    cases h
    refine ⟨Array.mem_of_getElem? hfirst, fun y hy => ?_⟩
    split_ifs at hy
    · exact mem_pop hy
    · obtain rfl | hmem := mem_fill hy
      · exact Array.mem_of_back? hlast
      · exact mem_pop hmem
  · cases h

lemma mem_ofArray (h : y ∈ ofArray before heap) : y ∈ heap := by
  rw [ofArray] at h
  -- over the entries that have others below them
  generalize List.range (heap.size / 2) = places at h
  induction places with
  | nil => exact h
  | cons i places ih =>
    rw [List.foldr_cons] at h
    split at h
    · rename_i x hx
      obtain rfl | hmem := mem_fill h
      · exact ih (Array.mem_of_getElem? hx)
      · exact ih hmem
    · exact ih h

end Heap

/-! ## The clock -/

/-- The clock moves from one time to a later one. -/
def Passes (time later : Binary64) : Prop := time.isBelow later = true ∧ later.isFinite = true

/-- Whether a time has come, as close to the clock as timers go off. -/
def IsDue (now time : Binary64) : Prop :=
  time.isBelow (now.add Schedule.grain) = true ∨ time = .nan

lemma Passes.lt {time later : Binary64} (h : Passes time later) (hfinite : time.isFinite = true) :
    time.value < later.value :=
  (Binary64.isBelow_iff hfinite h.2).1 h.1

lemma value_le_of_passes {time later : Binary64} (hfinite : time.isFinite = true)
    (h : ReflTransGen Passes time later) : later.isFinite = true ∧ time.value ≤ later.value := by
  induction h with
  | refl => exact ⟨hfinite, le_rfl⟩
  | tail _ hpasses ih => exact ⟨hpasses.2, ih.2.trans (hpasses.lt ih.1).le⟩

namespace Schedule

lemma grain_eq : grain = .finite false 4835703278458517 (-82) := by
  decide +kernel

/-- A grain is a billionth of a second, or what comes nearest. -/
lemma grain_near : 0 < grain.value ∧ |grain.value - 1 / 10 ^ 9| < 1 / 10 ^ 25 := by
  rw [grain_eq, Binary64.value]
  norm_num [abs_lt]

lemma grain_pos : 0 < grain.value :=
  grain_near.1

end Schedule

/-- A time a positive delay after another has come, but for a grain. -/
lemma IsDue.lt {now time delay : Binary64} (h : IsDue now (time.add delay))
    (hnow : now.isFinite = true) (htime : time.isFinite = true) (hdelay : delay.isFinite = true)
    (hnow₀ : 0 ≤ now.value) (htime₀ : 0 ≤ time.value) (hdelay₀ : 0 < delay.value) :
    time.value + delay.value < now.value + Schedule.grain.value := by
  have hbelow := h.resolve_right (Binary64.add_ne_nan htime hdelay)
  have hgrain := Schedule.grain_pos
  exact Binary64.add_lt_add_of_isBelow htime hdelay hnow rfl (by linarith) (by linarith) hbelow

/-- Since a time, so many intervals have passed one after the other, each of them reckoned by the
clock from a time at which those before it had passed.  An interval that is not positive passes at
once. -/
inductive Elapsed (interval since : Binary64) : Nat → Binary64 → Prop
  | start : Elapsed interval since 0 since
  | later {k : Nat} {time now : Binary64} (h : Elapsed interval since k time)
    (hpasses : Passes time now) : Elapsed interval since k now
  | void {k : Nat} {time : Binary64} (h : Elapsed interval since k time)
    (hvoid : (interval.isZero || interval.isNegative) = true) : Elapsed interval since (k + 1) time
  | interval {k : Nat} {time now : Binary64} (h : Elapsed interval since k time)
    (hpasses : ReflTransGen Passes time now) (hdue : IsDue now (time.add interval)) :
    Elapsed interval since (k + 1) now

namespace Elapsed

variable {interval since time now : Binary64} {k : Nat}

lemma forward (h : Elapsed interval since k time) (hpasses : ReflTransGen Passes time now) :
    Elapsed interval since k now := by
  induction hpasses with
  | refl => exact h
  | tail _ hpasses ih => exact ih.later hpasses

/-- By their values, each interval has passed but for a grain. -/
lemma value_le (h : Elapsed interval since k now) (hsince : since.isFinite = true)
    (hpos : 0 ≤ since.value) (hinterval : interval.isFinite = true) :
    now.isFinite = true ∧ since.value ≤ now.value ∧
      since.value + k * interval.value ≤ now.value + k * Schedule.grain.value := by
  induction h with
  | start => exact ⟨hsince, le_rfl, by simp⟩
  | later _ hpasses ih =>
    obtain ⟨hfinite, hle, hvalue⟩ := ih
    have hlt := hpasses.lt hfinite
    exact ⟨hpasses.2, hle.trans hlt.le, hvalue.trans (by gcongr)⟩
  | @void k time _ hvoid ih =>
    obtain ⟨hfinite, hle, hvalue⟩ := ih
    have hnonpos := Binary64.value_nonpos hvoid
    have hgrain := Schedule.grain_pos
    refine ⟨hfinite, hle, ?_⟩
    push_cast
    linarith
  | @interval k time now _ hpasses hdue ih =>
    obtain ⟨hfinite, hle, hvalue⟩ := ih
    obtain ⟨hfinite', hle'⟩ := value_le_of_passes hfinite hpasses
    have hgrain := Schedule.grain_pos
    refine ⟨hfinite', hle.trans hle', ?_⟩
    push_cast
    obtain hnonpos | hpositive := le_or_gt interval.value 0
    · linarith
    · have hlt := hdue.lt hfinite' hfinite hinterval (hpos.trans (hle.trans hle')) (hpos.trans hle)
        hpositive
      linarith

end Elapsed

/-! ## Planning -/

/-- The task and the timer, if a call says that a task's timer has gone off. -/
def Call.ring? : Call → Option (TaskId × Nat)
  | alarm (.ring i n) => some (i, n)
  | _ => none

namespace Schedule

/-- A schedule may come after another one by planning: the clock may move on, timers may leave the
heap, and calls the queue, and only timers that are due join the queue. -/
structure Follows (s s' : Schedule) : Prop where
  clock : ReflTransGen Passes s.now s'.now
  nextTimer : s'.nextTimer = s.nextTimer
  timers : ∀ t ∈ s'.timers, t ∈ s.timers
  alarms : ∀ a, .alarm a ∈ s'.queue →
    .alarm a ∈ s.queue ∨ ∃ t ∈ s.timers, t.alarm = a ∧ IsDue s'.now t.due

/-- A schedule may come after another one by setting timers, calling timers off, and adding calls
other than those of tasks' timers. -/
structure Extends (s s' : Schedule) : Prop where
  now : s'.now = s.now
  nextTimer : s.nextTimer ≤ s'.nextTimer
  timers : ∀ t' ∈ s'.timers, (∃ t ∈ s.timers, t.due = t'.due ∧ t.alarm = t'.alarm) ∨
    ∃ i n, t'.alarm = .ring i n ∧ s.nextTimer ≤ n ∧ n < s'.nextTimer
  rings : ∀ i n, .alarm (.ring i n) ∈ s'.queue → .alarm (.ring i n) ∈ s.queue

variable {s s' s'' : Schedule}

/-! ### Calls join and leave the queue -/

lemma Follows.refl (s : Schedule) : s.Follows s :=
  ⟨.refl, rfl, fun _ => id, fun _ => .inl⟩

lemma Extends.refl (s : Schedule) : s.Extends s :=
  ⟨rfl, Nat.le_refl _, fun t ht => .inl ⟨t, ht, rfl, rfl⟩, fun _ _ => id⟩

lemma Extends.trans (h : s.Extends s') (h' : s'.Extends s'') : s.Extends s'' := by
  refine ⟨h'.now.trans h.now, Nat.le_trans h.nextTimer h'.nextTimer, fun t'' ht'' => ?_,
    fun i n hn => h.rings i n (h'.rings i n hn)⟩
  obtain ⟨t', ht', hdue, halarm⟩ | ⟨i, n, halarm, hle, hlt⟩ := h'.timers t'' ht''
  · obtain ⟨t, ht, hdue', halarm'⟩ | ⟨i, n, halarm', hle, hlt⟩ := h.timers t' ht'
    · exact .inl ⟨t, ht, hdue'.trans hdue, halarm'.trans halarm⟩
    · exact .inr ⟨i, n, halarm ▸ halarm', hle, Nat.lt_of_lt_of_le hlt h'.nextTimer⟩
  · exact .inr ⟨i, n, halarm, Nat.le_trans h.nextTimer hle, hlt⟩

/-- Calls that are no alarms of tasks are added to the queue. -/
lemma Extends.append (calls : List Call) (hcalls : ∀ i n, .alarm (.ring i n) ∉ calls) :
    s.Extends { s with queue := s.queue ++ calls } :=
  { Extends.refl s with
    rings := fun i n hn => (List.mem_append.1 hn).resolve_right (hcalls i n) }

lemma Extends.enqueue {c : Call} (hc : c.ring? = none) : s.Extends (s.enqueue c) := by
  refine .append [c] fun i n hn => ?_
  rw [← List.mem_singleton.1 hn] at hc
  cases hc

lemma timers_setTimer {delay : Binary64} {a : Alarm} {t : Timer}
    (ht : t ∈ (s.setTimer delay a).timers) :
    t ∈ s.timers ∨ t.due = s.now.add delay ∧ t.alarm = a := by
  obtain rfl | ht := Heap.mem_push ht
  · exact .inr ⟨rfl, rfl⟩
  · exact .inl ht

lemma Extends.setTimer (delay : Binary64) (i : TaskId) :
    s.Extends (s.setTimer delay (.ring i s.nextTimer)) := by
  refine ⟨rfl, Nat.le_succ _, fun t ht => ?_, fun _ _ => id⟩
  obtain ht | ⟨-, halarm⟩ := timers_setTimer ht
  · exact .inl ⟨t, ht, rfl, rfl⟩
  · exact .inr ⟨i, s.nextTimer, halarm, Nat.le_refl _, Nat.lt_succ_self _⟩

lemma Extends.callOff (number : Nat) : s.Extends (s.callOff number) := by
  rw [Schedule.callOff]
  split_ifs
  · refine { Extends.refl s with timers := fun t' ht' => .inl ?_ }
    obtain ⟨t, ht, rfl⟩ := Array.mem_map.1 ht'
    refine ⟨t, ht, ?_⟩
    split_ifs
    · exact ⟨rfl, rfl⟩
    · exact ⟨rfl, rfl⟩
  · exact .refl s

/-! ### Rounds -/

lemma timers_dropFront (fuel : Nat) (s : Schedule) :
    (∀ t ∈ (s.dropFront fuel).timers, t ∈ s.timers) ∧ (s.dropFront fuel).now = s.now ∧
      (s.dropFront fuel).nextTimer = s.nextTimer := by
  induction fuel generalizing s with
  | zero => exact ⟨fun _ => id, rfl, rfl⟩
  | succ fuel ih =>
    rw [dropFront]
    split
    · rename_i t rest hpop
      split_ifs
      · obtain ⟨hmem, hnow, hnext⟩ := ih { s with timers := rest, calledOff := s.calledOff - 1 }
        exact ⟨fun t ht => (Heap.mem_of_pop?_eq_some hpop).2 t (hmem t ht), hnow, hnext⟩
      · exact ⟨fun _ => id, rfl, rfl⟩
    · exact ⟨fun _ => id, rfl, rfl⟩

lemma timers_tidy (s : Schedule) :
    (∀ t ∈ s.tidy.timers, t ∈ s.timers) ∧ s.tidy.now = s.now ∧
      s.tidy.nextTimer = s.nextTimer := by
  rw [tidy]
  split_ifs
  · exact ⟨fun t ht => (Array.mem_filter.1 (Heap.mem_ofArray ht)).1, rfl, rfl⟩
  · exact timers_dropFront _ s

lemma passes_moveClock (s : Schedule) :
    ReflTransGen Passes s.now s.moveClock.now ∧ s.moveClock.timers = s.timers ∧
      s.moveClock.nextTimer = s.nextTimer := by
  rw [moveClock]
  split
  · split_ifs with h
    · exact ⟨.single (Bool.and_eq_true_iff.1 h), rfl, rfl⟩
    · exact ⟨.refl, rfl, rfl⟩
  · exact ⟨.refl, rfl, rfl⟩

/-- Only timers that are due leave the heap. -/
lemma due_popDue (time : Binary64) (fuel : Nat) (timers : Array Timer) :
    (∀ a ∈ (popDue time fuel timers).1,
        ∃ t ∈ timers, t.alarm = a ∧ (t.due.isBelow time = true ∨ t.due = .nan)) ∧
      ∀ t ∈ (popDue time fuel timers).2, t ∈ timers := by
  induction fuel generalizing timers with
  | zero => exact ⟨by nofun, fun _ => id⟩
  | succ fuel ih =>
    rw [popDue]
    split
    · exact ⟨by nofun, fun _ => id⟩
    · rename_i t rest hpop
      obtain ⟨ht, hrest⟩ := Heap.mem_of_pop?_eq_some hpop
      obtain ⟨halarms, htimers⟩ := ih rest
      split_ifs with hdue
      · refine ⟨fun a ha => ?_, fun t ht => hrest t (htimers t ht)⟩
        obtain rfl | ha := List.mem_cons.1 ha
        · exact ⟨t, ht, rfl, by simpa using hdue⟩
        · obtain ⟨t', ht', halarm, hdue'⟩ := halarms a ha
          exact ⟨t', hrest t' ht', halarm, hdue'⟩
      · exact ⟨by nofun, fun _ => id⟩

/-- A round begins with the calls of timers that are due. -/
lemma follows_beginRound (mayMove : Bool) (s : Schedule) : s.Follows (s.beginRound mayMove) := by
  obtain ⟨htidy, hnow, hnext⟩ := timers_tidy s
  obtain ⟨hpasses, hmove, hnext'⟩ := passes_moveClock s.tidy
  obtain ⟨r, alarms, timers, hr, hpop, hbegin⟩ := Engine.exists_beginRound mayMove s
  -- the clock may move before timers go off
  have hround : ReflTransGen Passes s.now r.now ∧ (∀ t ∈ r.timers, t ∈ s.timers) ∧
      r.nextTimer = s.nextTimer := by
    obtain ⟨-, rfl⟩ | rfl := hr
    · exact ⟨hnow ▸ hpasses, fun t ht => htidy t (hmove ▸ ht), hnext'.trans hnext⟩
    · exact ⟨by rw [hnow], htidy, hnext⟩
  obtain ⟨hclock, htimers, hnumber⟩ := hround
  obtain ⟨halarms, hleft⟩ := due_popDue (r.now.add grain) r.timers.size r.timers
  rw [hpop] at halarms hleft
  rw [hbegin]
  refine ⟨hclock, hnumber, fun t ht => htimers t (hleft t ht), fun a ha => ?_⟩
  obtain ha | ha := List.mem_append.1 ha
  · exact .inl ha
  · obtain ⟨a', ha', heq⟩ := List.mem_map.1 ha
    cases heq
    obtain ⟨t, ht, halarm, hdue⟩ := halarms a ha'
    exact .inr ⟨t, htimers t ht, halarm, hdue⟩

lemma follows_rest {c : Call} {queue : List Call} (hqueue : s.queue = c :: queue) (left : Nat) :
    s.Follows { s with queue, left } :=
  ⟨.refl, rfl, fun _ => id, fun _ ha => .inl (hqueue ▸ List.mem_cons_of_mem c ha)⟩

end Schedule

/-! ## Runs in time -/

namespace Engine

variable {e e' : Engine}

/-- The schedule plans, and some call is made.  A task takes its turn only when it does not wait for
something else; a timer goes off only after it was due and joined the queue. -/
inductive InTime (e : Engine) : Engine → Prop
  | plan (s : Schedule) (hplan : e.schedule.Follows s) : InTime e { e with schedule := s }
  | call (c : Call) (s : Schedule) (hplan : e.schedule.Follows s)
    (hturn : ∀ i, c = .turn i → ∃ t, e.task? i = some t ∧ t.wait = .turn)
    (halarm : ∀ a, c = .alarm a → c ∈ e.schedule.queue) :
    InTime e ({ e with schedule := s }.make c)

lemma InTime.inAnyOrder (h : InTime e e') : ReflTransGen InAnyOrder e e' := by
  cases h with
  | plan s => exact .single (.plan s)
  | call c s _ hturn => exact (ReflTransGen.single (.plan s)).tail (.call c hturn)

/-- A run in time is a run. -/
lemma Reachable.anyOrder (h : Reachable InTime e) : Reachable InAnyOrder e :=
  h.mono fun _ _ _ hreach hcall => hreach.steps hcall.inAnyOrder

end Engine

end FeedWatch
