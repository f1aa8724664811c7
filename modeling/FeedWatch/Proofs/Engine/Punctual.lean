import FeedWatch.Proofs.Engine.HeapOrder
import FeedWatch.Proofs.Number.Order

/-!
# Timers that are waited for

The clock moves only to the earliest timer, so it does not pass a timer that is still to go off.
`Schedule.Touches` says what tasks do to a schedule, `Schedule.Sane` what holds of every schedule
whose timers are due at numbers, and `Schedule.Awaits` that a timer of a task has not gone off yet,
or is about to.  Main statements: the timer is waited for until its turn in the queue
(`Awaits.next?`), it is due then, and the clock has not passed it (`Awaits.ring`), and there is a
call to be made as long as there is a timer (`next?_ne_none`).
-/

namespace FeedWatch.Schedule

variable {s s' s'' : Schedule} {off : Nat → Prop} {i j : TaskId} {n : Nat} {c : Call}
variable {due since : Binary64} {mayMove : Bool}

/-! ## What tasks do -/

/-- Calls other than those of tasks' timers join the queue, timers of tasks are set, and timers with
some numbers are called off. -/
inductive Touches (off : Nat → Prop) (s : Schedule) : Schedule → Prop
  | refl : Touches off s s
  | append {s' : Schedule} (calls : List Call) (hcalls : ∀ i n, .alarm (.ring i n) ∉ calls) :
    Touches off s s' → Touches off s { s' with queue := s'.queue ++ calls }
  | setTimer {s' : Schedule} (delay : Binary64) (i : TaskId) :
    Touches off s s' → Touches off s (s'.setTimer delay (.ring i s'.nextTimer))
  | callOff {s' : Schedule} (n : Nat) :
    off n → Touches off s s' → Touches off s (s'.callOff n)

namespace Touches

lemma trans (h : Touches off s s') (h' : Touches off s' s'') : Touches off s s'' := by
  induction h' with
  | refl => exact h
  | append calls hcalls _ ih => exact .append calls hcalls ih
  | setTimer delay i _ ih => exact .setTimer delay i ih
  | callOff n hn _ ih => exact .callOff n hn ih

lemma enqueue (hc : c.ring? = none) : Touches off s (s.enqueue c) := by
  refine .append [c] (fun i n hn => ?_) .refl
  rw [← List.mem_singleton.1 hn] at hc
  cases hc

/-- The clock stands, and calls only join the end of the queue. -/
lemma queue (h : Touches off s s') : s'.now = s.now ∧ s.nextTimer ≤ s'.nextTimer ∧
    s'.left = s.left ∧ s.queue <+: s'.queue := by
  induction h with
  | refl => exact ⟨rfl, Nat.le_refl _, rfl, List.prefix_rfl⟩
  | append calls _ _ ih =>
    obtain ⟨hnow, hnext, hleft, hqueue⟩ := ih
    exact ⟨hnow, hnext, hleft, hqueue.trans (List.prefix_append _ _)⟩
  | setTimer _ _ _ ih =>
    obtain ⟨hnow, hnext, hleft, hqueue⟩ := ih
    exact ⟨hnow, Nat.le_succ_of_le hnext, hleft, hqueue⟩
  | callOff n _ _ ih =>
    rw [Schedule.callOff]
    split_ifs
    · exact ih
    · exact ih

/-- No alarm of a task joins the queue. -/
lemma rings (h : Touches off s s') (hring : .alarm (.ring i n) ∈ s'.queue) :
    .alarm (.ring i n) ∈ s.queue := by
  induction h with
  | refl => exact hring
  | append calls hcalls _ ih => exact ih ((List.mem_append.1 hring).resolve_right (hcalls i n))
  | setTimer _ _ _ ih => exact ih hring
  | callOff n _ _ ih =>
    rw [Schedule.callOff] at hring
    split_ifs at hring
    · exact ih hring
    · exact ih hring

end Touches

/-! ## Schedules in order -/

/-- All timers are due at numbers. -/
def IsNumeric (s : Schedule) : Prop := ∀ t ∈ s.timers, t.due ≠ .nan

/-- The clock shows a number, the heap of timers is in order, and the round has no more calls than
the queue. -/
structure Sane (s : Schedule) : Prop where
  clock : s.now.isFinite = true
  heap : Heap.Ordered (fun t : Timer => t.due.place) s.timers
  counted : s.left ≤ s.queue.length

lemma before_iff (a b : Timer) (ha : a.due ≠ .nan) (hb : b.due ≠ .nan) :
    Timer.before a b = true ↔ a.due.place < b.due.place :=
  Binary64.isBelow_iff_place ha hb

lemma isNumeric_of_setTimer {delay : Binary64} {a : Alarm}
    (h : (s.setTimer delay a).IsNumeric) : s.IsNumeric ∧ s.now.add delay ≠ .nan :=
  ⟨fun t ht => h t (Heap.mem_push_of (.inr ht)), h _ (Heap.mem_push_of (.inl rfl))⟩

lemma isNumeric_callOff (n : Nat) (h : (s.callOff n).IsNumeric) : s.IsNumeric := by
  intro t ht
  rw [Schedule.callOff] at h
  split_ifs at h
  · have hdue := h _ (Array.mem_map_of_mem ht)
    split_ifs at hdue
    · exact hdue
    · exact hdue
  · exact h t ht

/-- Calling a timer off leaves the heap in order. -/
lemma ordered_callOff (n : Nat) (h : Heap.Ordered (fun t : Timer => t.due.place) s.timers) :
    Heap.Ordered (fun t : Timer => t.due.place) (s.callOff n).timers := by
  rw [Schedule.callOff]
  split_ifs
  · intro i x y hi htop hx hy
    rw [Array.getElem?_map, Option.map_eq_some_iff] at hx hy
    obtain ⟨u, hu, rfl⟩ := hx
    obtain ⟨v, hv, rfl⟩ := hy
    have hle := h i u v hi htop hu hv
    dsimp only at hle ⊢
    split_ifs
    · exact hle
    · exact hle
    · exact hle
    · exact hle
  · exact h

/-- What tasks do keeps a schedule in order. -/
lemma Sane.touch (h : s.Sane) (htouches : Touches off s s') (hnumeric : s'.IsNumeric) :
    s'.Sane := by
  induction htouches with
  | refl => exact h
  | append calls _ _ ih =>
    obtain ⟨hclock, hheap, hcounted⟩ := ih hnumeric
    refine ⟨hclock, hheap, hcounted.trans ?_⟩
    rw [List.length_append]
    exact Nat.le_add_right _ _
  | setTimer delay i _ ih =>
    obtain ⟨hnumeric, hdue⟩ := isNumeric_of_setTimer hnumeric
    obtain ⟨hclock, hheap, hcounted⟩ := ih hnumeric
    exact ⟨hclock, Heap.ordered_push before_iff hdue hnumeric hheap, hcounted⟩
  | @callOff s' n hn _ ih =>
    obtain ⟨hclock, hheap, hcounted⟩ := ih (isNumeric_callOff n hnumeric)
    obtain ⟨hnow, -, hleft, hqueue⟩ := (Touches.callOff n hn .refl : s'.Touches off _).queue
    refine ⟨?_, ordered_callOff n hheap, ?_⟩
    · rw [hnow]
      exact hclock
    · rw [hleft]
      exact hcounted.trans hqueue.length_le

/-! ## Rounds -/

lemma isNumeric_of_subset {timers : Array Timer} (h : s.IsNumeric)
    (hsub : ∀ t ∈ timers, t ∈ s.timers) : ∀ t ∈ timers, t.due ≠ .nan :=
  fun t ht => h t (hsub t ht)

/-- Dropping timers that are called off keeps the order, and all other timers. -/
lemma sane_dropFront (fuel : Nat) (h : s.Sane) (hnumeric : s.IsNumeric) :
    (s.dropFront fuel).Sane ∧ ∀ t ∈ s.timers, t.isCalledOff = false →
      t ∈ (s.dropFront fuel).timers := by
  induction fuel generalizing s with
  | zero => exact ⟨h, fun _ ht _ => ht⟩
  | succ fuel ih =>
    rw [dropFront]
    split
    · rename_i t rest hpop
      split_ifs with hoff
      · have hsub := (Heap.mem_of_pop?_eq_some hpop).2
        obtain ⟨hsane, hkept⟩ := @ih { s with timers := rest, calledOff := s.calledOff - 1 }
          ⟨h.clock, Heap.ordered_pop? before_iff hnumeric h.heap hpop, h.counted⟩
          (isNumeric_of_subset hnumeric hsub)
        refine ⟨hsane, fun t' ht' hgoing => hkept t' ?_ hgoing⟩
        refine (Heap.mem_of_pop? hpop ht').resolve_left ?_
        rintro rfl
        rw [hgoing] at hoff
        cases hoff
      · exact ⟨h, fun _ ht _ => ht⟩
    · exact ⟨h, fun _ ht _ => ht⟩

lemma sane_tidy (h : s.Sane) (hnumeric : s.IsNumeric) :
    s.tidy.Sane ∧ ∀ t ∈ s.timers, t.isCalledOff = false → t ∈ s.tidy.timers := by
  rw [tidy]
  split_ifs
  · refine ⟨⟨h.clock, Heap.ordered_ofArray before_iff (isNumeric_of_subset hnumeric fun t ht =>
      (Array.mem_filter.1 ht).1), h.counted⟩, fun t ht hgoing => ?_⟩
    exact Heap.mem_ofArray_of (Array.mem_filter.2 ⟨ht, by rw [hgoing]; rfl⟩)
  · exact sane_dropFront _ h hnumeric

/-- The clock moves to the earliest timer, so not past any. -/
lemma sane_moveClock (h : s.Sane) (hnumeric : s.IsNumeric) :
    s.moveClock.Sane ∧ ∀ t ∈ s.timers, s.moveClock.now = s.now ∨
      t.due.isBelow s.moveClock.now = false := by
  rw [moveClock]
  split
  · rename_i first hfirst
    split_ifs with hmoves
    · refine ⟨⟨(Bool.and_eq_true_iff.1 hmoves).2, h.heap, h.counted⟩, fun t ht => .inr ?_⟩
      have hplace := h.heap.root hfirst ht
      refine Bool.eq_false_iff.2 fun hbelow => ?_
      rw [Binary64.isBelow_iff_place (hnumeric t ht)
        (hnumeric first (Array.mem_of_getElem? hfirst))] at hbelow
      exact absurd hplace (not_le.2 hbelow)
    · exact ⟨h, fun _ _ => .inl rfl⟩
  · exact ⟨h, fun _ _ => .inl rfl⟩

/-- A timer stays in the heap, or it is due and its alarm joins the queue. -/
lemma sane_popDue (time : Binary64) (fuel : Nat) {timers : Array Timer}
    (hheap : Heap.Ordered (fun t : Timer => t.due.place) timers)
    (hnumeric : ∀ t ∈ timers, t.due ≠ .nan) :
    Heap.Ordered (fun t : Timer => t.due.place) (popDue time fuel timers).2 ∧
      ∀ t ∈ timers, t ∈ (popDue time fuel timers).2 ∨ t.alarm ∈ (popDue time fuel timers).1 := by
  induction fuel generalizing timers with
  | zero => exact ⟨hheap, fun _ => .inl⟩
  | succ fuel ih =>
    rw [popDue]
    split
    · exact ⟨hheap, fun _ => .inl⟩
    · rename_i first rest hpop
      have hsub := (Heap.mem_of_pop?_eq_some hpop).2
      split_ifs
      · obtain ⟨hordered, hkept⟩ := ih (Heap.ordered_pop? before_iff hnumeric hheap hpop)
          fun t ht => hnumeric t (hsub t ht)
        refine ⟨hordered, fun t ht => ?_⟩
        obtain rfl | ht := Heap.mem_of_pop? hpop ht
        · exact .inr List.mem_cons_self
        · exact (hkept t ht).imp_right (List.mem_cons_of_mem _)
      · exact ⟨hheap, fun _ => .inl⟩

/-- What a round does: the clock stands unless the queue is empty, and passes no timer that is not
called off; such a timer stays in the heap, or its alarm joins the queue. -/
structure Begins (s s' : Schedule) : Prop where
  follows : s.Follows s'
  sane : s'.Sane
  stands : s.queue ≠ [] → s'.now = s.now
  queue : s.queue <+: s'.queue
  past : ∀ t ∈ s.timers, t.isCalledOff = false →
    s'.now = s.now ∨ t.due.isBelow s'.now = false
  going : ∀ t ∈ s.timers, t.isCalledOff = false → t ∈ s'.timers ∨ .alarm t.alarm ∈ s'.queue

lemma begins_beginRound (mayMove : Bool) (h : s.Sane) (hnumeric : s.IsNumeric) :
    s.Begins (s.beginRound mayMove) := by
  obtain ⟨htidy, hkept⟩ := sane_tidy h hnumeric
  obtain ⟨hsub, hnow, -⟩ := timers_tidy s
  have hnumeric' : s.tidy.IsNumeric := isNumeric_of_subset hnumeric hsub
  obtain ⟨r, alarms, timers, hr, hpop, hbegin⟩ := Engine.exists_beginRound mayMove s
  have hround : r.Sane ∧ r.timers = s.tidy.timers ∧ (s.queue ≠ [] → r.now = s.now) ∧
      ∀ t ∈ s.tidy.timers, r.now = s.now ∨ t.due.isBelow r.now = false := by
    obtain ⟨hempty, rfl⟩ | rfl := hr
    · obtain ⟨hmoved, hpast⟩ := sane_moveClock htidy hnumeric'
      exact ⟨hmoved, (passes_moveClock _).2.1, fun hne => absurd hempty hne,
        fun t ht => (hpast t ht).imp_left (·.trans hnow)⟩
    · exact ⟨htidy, rfl, fun _ => hnow, fun _ _ => .inl hnow⟩
  obtain ⟨hsane, htimers, hstands, hpast⟩ := hround
  have hfollows := follows_beginRound mayMove s
  obtain ⟨hordered, hdue⟩ := sane_popDue (r.now.add grain) r.timers.size hsane.heap
    (htimers ▸ hnumeric')
  rw [hpop] at hordered hdue
  rw [hbegin] at hfollows ⊢
  refine ⟨hfollows, ⟨hsane.clock, hordered, Nat.le_refl _⟩, hstands, List.prefix_append _ _,
    fun t ht hgoing => hpast t (hkept t ht hgoing), fun t ht hgoing => ?_⟩
  refine (hdue t (htimers ▸ hkept t ht hgoing)).imp_right fun halarm => ?_
  exact List.mem_append_right _ (List.mem_map_of_mem halarm)

lemma Begins.refl (h : s.Sane) : s.Begins s :=
  ⟨.refl s, h, fun _ => rfl, List.prefix_rfl, fun _ _ _ => .inl rfl, fun _ ht _ => .inl ht⟩

/-- The next call is the first one in the queue, perhaps after a round has begun. -/
lemma cases_of_next? (h : s.Sane) (hnumeric : s.IsNumeric) (hnext : s.next? mayMove = some (c, s')) :
    ∃ r queue, s.Begins r ∧ r.queue = c :: queue ∧ s' = { r with queue, left := r.left - 1 } := by
  rw [next?] at hnext
  split_ifs at hnext with hleft
  · split at hnext
    · cases hnext
    · rename_i queue hqueue
      cases hnext
      exact ⟨_, _, begins_beginRound mayMove h hnumeric, hqueue, rfl⟩
  · split at hnext
    · cases hnext
    · rename_i queue hqueue
      cases hnext
      exact ⟨_, _, .refl h, hqueue, rfl⟩

lemma Sane.next? (h : s.Sane) (hnumeric : s.IsNumeric) (hnext : s.next? mayMove = some (c, s')) :
    s'.Sane := by
  obtain ⟨r, queue, hbegins, hqueue, rfl⟩ := cases_of_next? h hnumeric hnext
  obtain ⟨hclock, hheap, hcounted⟩ := hbegins.sane
  refine ⟨hclock, hheap, ?_⟩
  rw [hqueue, List.length_cons] at hcounted
  dsimp only
  omega

/-! ## Timers that are waited for -/

/-- A timer of a task, which was set at a time, is still to go off, or has gone off when it was due
and its alarm is in the queue; and the clock is not past it. -/
structure Awaits (i : TaskId) (n : Nat) (since due : Binary64) (s : Schedule) : Prop where
  number : n < s.nextTimer
  timers : ∀ t ∈ s.timers, t.alarm = .ring i n → t.due = due
  rung : .alarm (.ring i n) ∈ s.queue → IsDue s.now due
  going : (∃ t ∈ s.timers, t.alarm = .ring i n ∧ t.number = n ∧ t.isCalledOff = false) ∨
    .alarm (.ring i n) ∈ s.queue
  past : s.now = since ∨ due.isBelow s.now = false

/-- A timer that was just set is waited for. -/
lemma awaits_setTimer (hnew : ∀ t ∈ s.timers, t.alarm ≠ .ring i s.nextTimer)
    (hqueue : .alarm (.ring i s.nextTimer) ∉ s.queue) (delay : Binary64) :
    Awaits i s.nextTimer s.now (s.now.add delay) (s.setTimer delay (.ring i s.nextTimer)) := by
  refine ⟨Nat.lt_succ_self _, fun t ht halarm => ?_, fun hring => ?_, .inl ?_, .inl rfl⟩
  · obtain hold | ⟨hdue, -⟩ := timers_setTimer ht
    · exact absurd halarm (hnew t hold)
    · exact hdue
  · exact absurd hring hqueue
  · exact ⟨_, Heap.mem_push_of (.inl rfl), rfl, rfl, rfl⟩

/-- What tasks do leaves a timer of another task waited for. -/
lemma Awaits.touch (h : s.Awaits i n since due) (htouches : Touches off s s') (hoff : ¬ off n) :
    s'.Awaits i n since due := by
  induction htouches with
  | refl => exact h
  | append calls hcalls _ ih =>
    refine ⟨ih.number, ih.timers, fun hring => ?_, ?_, ih.past⟩
    · exact ih.rung ((List.mem_append.1 hring).resolve_right (hcalls i n))
    · exact ih.going.imp_right (List.mem_append_left calls)
  | @setTimer s' delay j _ ih =>
    refine ⟨Nat.lt_succ_of_lt ih.number, fun t ht halarm => ?_, ih.rung, ?_, ih.past⟩
    · obtain ht | ⟨-, halarm'⟩ := timers_setTimer ht
      · exact ih.timers t ht halarm
      · cases halarm'.symm.trans halarm
        exact absurd ih.number (Nat.lt_irrefl _)
    · refine ih.going.imp_left ?_
      rintro ⟨t, ht, hthat⟩
      exact ⟨t, Heap.mem_push_of (.inr ht), hthat⟩
  | @callOff s' m hm _ ih =>
    have hne : m ≠ n := by
      rintro rfl
      exact hoff hm
    rw [Schedule.callOff]
    split_ifs
    · refine ⟨ih.number, fun t ht halarm => ?_, ih.rung, ?_, ih.past⟩
      · obtain ⟨t₀, ht₀, rfl⟩ := Array.mem_map.1 ht
        split_ifs at halarm ⊢
        · exact ih.timers t₀ ht₀ halarm
        · exact ih.timers t₀ ht₀ halarm
      · refine ih.going.imp_left ?_
        rintro ⟨t, ht, halarm, hnumber, hgoing⟩
        refine ⟨t, Array.mem_map.2 ⟨t, ht, ?_⟩, halarm, hnumber, hgoing⟩
        rw [if_neg]
        rw [hnumber, beq_iff_eq]
        exact hne.symm
    · exact ih

/-- When a round begins, a timer is waited for as before. -/
lemma Awaits.begin (h : s.Awaits i n since due) (hbegins : s.Begins s') :
    s'.Awaits i n since due := by
  obtain ⟨hfollows, -, hstands, hqueue, hpast, hgoing⟩ := hbegins
  have hstands' : ∀ {c}, c ∈ s.queue → s'.now = s.now :=
    fun hc => hstands (List.ne_nil_of_mem hc)
  refine ⟨hfollows.nextTimer ▸ h.number, fun t ht => h.timers t (hfollows.timers t ht),
    fun hring => ?_, ?_, ?_⟩
  · obtain hring | ⟨t, ht, halarm, hdue⟩ := hfollows.alarms _ hring
    · rw [hstands' hring]
      exact h.rung hring
    · exact h.timers t ht halarm ▸ hdue
  · obtain ⟨t, ht, halarm, hnumber, hoff⟩ | hring := h.going
    · obtain hthere | hring := hgoing t ht hoff
      · exact .inl ⟨t, hthere, halarm, hnumber, hoff⟩
      · exact .inr (halarm ▸ hring)
    · exact .inr (hqueue.subset hring)
  · have hsame : s'.now = s.now ∨ due.isBelow s'.now = false := by
      obtain ⟨t, ht, halarm, -, hoff⟩ | hring := h.going
      · exact h.timers t ht halarm ▸ hpast t ht hoff
      · exact .inl (hstands' hring)
    obtain hsame | hnot := hsame
    · rw [hsame]
      exact h.past
    · exact .inr hnot

/-- A timer that is waited for is still so when another call comes next. -/
lemma Awaits.next? (h : s.Awaits i n since due) (hsane : s.Sane) (hnumeric : s.IsNumeric)
    (hnext : s.next? mayMove = some (c, s')) (hc : c ≠ .alarm (.ring i n)) :
    s'.Awaits i n since due := by
  obtain ⟨r, queue, hbegins, hqueue, rfl⟩ := cases_of_next? hsane hnumeric hnext
  obtain ⟨hnumber, htimers, hrung, hgoing, hpast⟩ := h.begin hbegins
  rw [hqueue] at hrung hgoing
  exact ⟨hnumber, htimers, fun hring => hrung (List.mem_cons_of_mem _ hring),
    hgoing.imp_right fun hring => (List.mem_cons.1 hring).resolve_left hc.symm, hpast⟩

/-- When its alarm comes next, a timer is due, and the clock is not past it. -/
lemma Awaits.ring (h : s.Awaits i n since due) (hsane : s.Sane) (hnumeric : s.IsNumeric)
    (hnext : s.next? mayMove = some (.alarm (.ring i n), s')) :
    IsDue s'.now due ∧ (s'.now = since ∨ due.isBelow s'.now = false) := by
  obtain ⟨r, queue, hbegins, hqueue, rfl⟩ := cases_of_next? hsane hnumeric hnext
  obtain ⟨-, -, hrung, -, hpast⟩ := h.begin hbegins
  exact ⟨hrung (hqueue ▸ List.mem_cons_self), hpast⟩

/-! ## Calls to be made -/

/-- The clock can tell the time of a timer from a grain later. -/
def IsTold (t : Timer) : Prop := 0 ≤ t.due.value ∧ t.due.isBelow (t.due.add grain) = true

lemma IsTold.isFinite {t : Timer} (h : IsTold t) : t.due.isFinite = true := by
  have hbelow := h.2
  rw [grain_eq] at hbelow
  cases hdue : t.due with
  | finite a m e => rfl
  | infinite a =>
    rw [hdue] at hbelow
    cases a <;> cases hbelow
  | nan =>
    rw [hdue] at hbelow
    cases hbelow

/-- A timer that the clock has reached is due. -/
lemma IsTold.isDue {t : Timer} {now : Binary64} (h : IsTold t) (hnow : now.isFinite = true)
    (hnow₀ : 0 ≤ now.value) (hreached : now.isBelow t.due = false) :
    t.due.isBelow (now.add grain) = true := by
  have hfinite := h.isFinite
  have hgrain := grain_pos
  have hne : t.due ≠ .nan := by
    intro heq
    rw [heq] at hfinite
    cases hfinite
  by_contra hnot
  -- the clock and a grain would be below the timer and a grain
  have hplace := Binary64.place_le_of_not_isBelow hne (Binary64.add_ne_nan hnow rfl)
    (Bool.eq_false_iff.2 hnot)
  have hlt := (Binary64.isBelow_iff_place hne (Binary64.add_ne_nan hfinite rfl)).1 h.2
  have hbelow := (Binary64.isBelow_iff_place (Binary64.add_ne_nan hnow rfl)
    (Binary64.add_ne_nan hfinite rfl)).2 (hplace.trans_lt hlt)
  have hsum := Binary64.add_lt_add_of_isBelow hnow rfl hfinite rfl (by linarith [hnow₀])
    (by linarith [h.1]) hbelow
  rw [Bool.eq_false_iff, ne_eq, Binary64.isBelow_iff hnow hfinite, not_lt] at hreached
  linarith

/-- The first timer is due once the clock has moved to it. -/
lemma isBelow_moveClock {first : Timer} (hfirst : s.timers[0]? = some first) (htold : IsTold first)
    (hclock : s.now.isFinite = true) (hnow₀ : 0 ≤ s.now.value) :
    first.due.isBelow (s.moveClock.now.add grain) = true := by
  rw [moveClock, hfirst]
  dsimp only
  split_ifs with hmoves
  · exact htold.2
  · refine htold.isDue hclock hnow₀ ?_
    rwa [htold.isFinite, Bool.and_true, Bool.not_eq_true] at hmoves

/-- A round that begins with an empty queue does not stay without calls when there is a timer that is
not called off: the earliest one goes off. -/
lemma queue_beginRound_ne_nil {t : Timer} (hsane : s.Sane) (hnumeric : s.IsNumeric)
    (hnow₀ : 0 ≤ s.now.value) (ht : t ∈ s.timers) (hgoing : t.isCalledOff = false)
    (htold : ∀ t ∈ s.timers, IsTold t) (hempty : s.queue = []) :
    (s.beginRound true).queue ≠ [] := by
  obtain ⟨htidy, hkept⟩ := sane_tidy hsane hnumeric
  obtain ⟨hsub, hnow, -⟩ := timers_tidy s
  obtain ⟨-, htimers, -⟩ := passes_moveClock s.tidy
  obtain ⟨first, hfirst⟩ : ∃ first, s.tidy.timers[0]? = some first := by
    obtain ⟨i, hi⟩ := Array.mem_iff_getElem?.1 (hkept t ht hgoing)
    obtain ⟨hlt, -⟩ := Array.getElem?_eq_some_iff.1 hi
    exact ⟨_, Array.getElem?_eq_getElem (by omega)⟩
  obtain ⟨hlt, -⟩ := Array.getElem?_eq_some_iff.1 hfirst
  have hdue : first.due.isBelow (s.tidy.moveClock.now.add grain) = true :=
    isBelow_moveClock hfirst (htold first (hsub first (Array.mem_of_getElem? hfirst))) htidy.clock
      (hnow ▸ hnow₀)
  obtain ⟨rest, hpop⟩ : ∃ rest, Heap.pop? Timer.before s.tidy.timers = some (first, rest) := by
    have hback : s.tidy.timers.back? ≠ none := by
      rw [Array.back?_eq_getElem?, Array.getElem?_eq_getElem (by omega)]
      exact Option.some_ne_none _
    obtain ⟨last, hlast⟩ := Option.ne_none_iff_exists'.1 hback
    rw [Heap.pop?, hfirst, hlast]
    exact ⟨_, rfl⟩
  obtain ⟨m, hm⟩ : ∃ m, s.tidy.timers.size = m + 1 := ⟨_, (Nat.succ_pred_eq_of_pos hlt).symm⟩
  rw [beginRound]
  simp only [Engine.queue_tidy s, hempty, List.isEmpty_nil, Bool.and_self, if_true, htimers, hm,
    popDue, hpop, hdue, Bool.true_or, List.map_cons]
  simp

/-- As long as there is a timer that is not called off, and the clock can tell the times of timers,
some call comes next. -/
lemma next?_ne_none {t : Timer} (hsane : s.Sane) (hnumeric : s.IsNumeric) (hnow₀ : 0 ≤ s.now.value)
    (ht : t ∈ s.timers) (hgoing : t.isCalledOff = false) (htold : ∀ t ∈ s.timers, IsTold t) :
    s.next? true ≠ none := by
  rw [next?]
  split_ifs with hleft
  · split
    · rename_i hnil
      by_cases hempty : s.queue = []
      · exact absurd hnil (queue_beginRound_ne_nil hsane hnumeric hnow₀ ht hgoing htold hempty)
      · have hprefix := (begins_beginRound true hsane hnumeric).queue
        rw [hnil] at hprefix
        exact absurd (List.prefix_nil.1 hprefix) hempty
    · exact Option.some_ne_none _
  · split
    · rename_i hnil
      have hcounted := hsane.counted
      rw [hnil] at hcounted
      exact absurd (Nat.le_zero.1 hcounted) hleft
    · exact Option.some_ne_none _

/-- Nor is there nothing to do while a call stands in the queue. -/
lemma next?_ne_none_of_mem (hsane : s.Sane) (hnumeric : s.IsNumeric) (hc : c ∈ s.queue) :
    s.next? mayMove ≠ none := by
  rw [next?]
  split_ifs with hleft
  · split
    · rename_i hnil
      have hmem := (begins_beginRound mayMove hsane hnumeric).queue.subset hc
      rw [hnil] at hmem
      cases hmem
    · exact Option.some_ne_none _
  · split
    · rename_i hnil
      rw [hnil] at hc
      cases hc
    · exact Option.some_ne_none _

end FeedWatch.Schedule
