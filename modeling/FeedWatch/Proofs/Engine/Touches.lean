import FeedWatch.Proofs.Engine.Punctual
import FeedWatch.Proofs.Engine.Works

/-!
# What the engine does to its schedule

Whatever the engine does, calls join the end of the queue and timers are set, for which tasks wait;
only a task that ends because it was cancelled calls a timer off, which is its own.  Nor is anything
else taken back: what was read stays read, a task that is cancelled stays so until it ends, and one
that has ended does not come back.  All of this need only be seen of one act (`Act.touched`).  Main
statement: no call touches the schedule any further (`touches_make`), nor does what happens between
the calls (`Step.touches`).
-/

namespace FeedWatch.Engine

open Schedule

variable {off : Nat → Prop} {begun : TaskId → Nat → Prop} {e e' : Engine}

/-- Something that the engine does touches its schedule no further, the timers that tasks wait for
are those they waited for, or new ones, and it takes back nothing that was read, no number that was
given out and no end of a task. -/
structure Touched (off : Nat → Prop) (e e' : Engine) : Prop where
  schedule : e.schedule.Touches off e'.schedule
  timers : ∀ t' ∈ e'.tasks, ∀ n, t'.timer = some n →
    (∃ t ∈ e.tasks, t.id = t'.id ∧ t.timer = some n) ∨
      e.schedule.nextTimer ≤ n ∧ n < e'.schedule.nextTimer
  read : e.feed.read <+: e'.feed.read
  next : e.nextTask ≤ e'.nextTask
  ends : ∀ t' ∈ e'.tasks, t'.id < e.nextTask →
    ∃ t ∈ e.tasks, t.id = t'.id ∧ (t.cancelled = true → t'.cancelled = true)

namespace Touched

/-- Tasks keep their timers, and some end. -/
lemma of_tasks (hschedule : e.schedule.Touches off e'.schedule)
    (hread : e.feed.read <+: e'.feed.read) (hnext : e'.nextTask = e.nextTask)
    (htasks : ∀ t' ∈ e'.tasks, ∃ t ∈ e.tasks, (t.id = t'.id ∧ t.timer = t'.timer) ∧
      (t.cancelled = true → t'.cancelled = true)) :
    Touched off e e' := by
  refine ⟨hschedule, fun t' ht' n hn => .inl ?_, hread, hnext.ge, fun t' ht' _ => ?_⟩
  · obtain ⟨t, ht, ⟨hid, htimer⟩, -⟩ := htasks t' ht'
    exact ⟨t, ht, hid, htimer.trans hn⟩
  · obtain ⟨t, ht, ⟨hid, -⟩, hcancelled⟩ := htasks t' ht'
    exact ⟨t, ht, hid, hcancelled⟩

/-- Arrivals are read at most. -/
lemma reads (htasks : e'.tasks = e.tasks) (hschedule : e'.schedule = e.schedule)
    (hnext : e'.nextTask = e.nextTask) (hread : e.feed.read <+: e'.feed.read) :
    Touched off e e' := by
  refine of_tasks ?_ hread hnext fun t' ht' => ⟨t', htasks ▸ ht', ⟨rfl, rfl⟩, id⟩
  rw [hschedule]
  exact .refl

lemma refl : Touched off e e := reads rfl rfl rfl List.prefix_rfl

lemma trans {m : Engine} (h : Touched off e m) (h' : Touched off m e') :
    Touched off e e' := by
  refine ⟨h.schedule.trans h'.schedule, fun t' ht' n hn => ?_, h.read.trans h'.read,
    h.next.trans h'.next, fun t' ht' hlt => ?_⟩
  · have hnext := h.schedule.queue.2.1
    have hnext' := h'.schedule.queue.2.1
    obtain ⟨t₁, ht₁, hid₁, hn₁⟩ | ⟨hle, hlt⟩ := h'.timers t' ht' n hn
    · obtain ⟨t, ht, hid, hn⟩ | ⟨hle, hlt⟩ := h.timers t₁ ht₁ n hn₁
      · exact .inl ⟨t, ht, hid.trans hid₁, hn⟩
      · exact .inr ⟨hle, hlt.trans_le hnext'⟩
    · exact .inr ⟨hnext.trans hle, hlt⟩
  · obtain ⟨t₁, ht₁, hid₁, hends₁⟩ := h'.ends t' ht' (hlt.trans_le h.next)
    obtain ⟨t, ht, hid, hends⟩ := h.ends t₁ ht₁ (hid₁.trans_lt hlt)
    exact ⟨t, ht, hid.trans hid₁, fun hcancelled => hends₁ (hends hcancelled)⟩

end Touched

/-! ## One act -/

lemma touches_map {f : Task → Task} (hf : ∀ t ∈ e.tasks, t.Becomes begun (f t)) :
    Touched off e { e with tasks := e.tasks.map f } := by
  refine .of_tasks .refl List.prefix_rfl rfl fun t' ht' => ?_
  obtain ⟨t, ht, rfl⟩ := List.mem_map.1 ht'
  exact ⟨t, ht, ⟨(hf t ht).id.symm, (hf t ht).timer.symm⟩, (hf t ht).ends⟩

lemma touches_spawn (k : Nat) (w : Work) (e : Engine) : Touched off e (e.spawn k w) := by
  refine ⟨.enqueue rfl, fun t' ht' n hn => .inl ?_, List.prefix_rfl, Nat.le_succ _,
    fun t' ht' hlt => ?_⟩
  · obtain ht' | ht' := List.mem_append.1 ht'
    · exact ⟨t', ht', rfl, hn⟩
    · rw [List.mem_singleton.1 ht'] at hn
      cases hn
  · obtain ht' | ht' := List.mem_append.1 ht'
    · exact ⟨t', ht', rfl, id⟩
    · rw [List.mem_singleton.1 ht'] at hlt
      exact absurd hlt (Nat.lt_irrefl _)

/-- A task that waits for a time waits for a timer that is new. -/
lemma touches_awaitTime (i : TaskId) (w : Work) (delay : Binary64) (e : Engine) :
    Touched off e (e.awaitTime i w delay) := by
  rw [awaitTime]
  split_ifs
  · refine .of_tasks (.enqueue rfl) List.prefix_rfl rfl fun t' ht' => ?_
    obtain ⟨hold, -⟩ | ⟨t, ht, -, rfl⟩ := mem_alterTask ht'
    · exact ⟨t', hold, ⟨rfl, rfl⟩, id⟩
    · exact ⟨t, ht, ⟨rfl, rfl⟩, id⟩
  · refine ⟨.setTimer delay i .refl, fun t' ht' n hn => ?_, List.prefix_rfl, Nat.le_refl _,
      fun t' ht' _ => ?_⟩
    · obtain ⟨hold, -⟩ | ⟨t, -, -, rfl⟩ := mem_alterTask ht'
      · exact .inl ⟨t', hold, rfl, hn⟩
      · obtain rfl := Option.some.inj hn
        exact .inr ⟨Nat.le_refl _, Nat.lt_succ_self _⟩
    · obtain ⟨hold, -⟩ | ⟨t, ht, -, rfl⟩ := mem_alterTask ht'
      · exact ⟨t', hold, rfl, id⟩
      · exact ⟨t, ht, rfl, id⟩

lemma touches_wake (p : Task → Bool) (e : Engine) : Touched off e (e.wake p) := by
  refine .of_tasks (.append _ (fun i n hn => ?_) .refl) List.prefix_rfl rfl fun t' ht' => ?_
  · obtain ⟨t, -, ht⟩ := List.mem_map.1 hn
    cases ht
  · obtain ⟨t, ht, rfl⟩ := List.mem_map.1 ht'
    refine ⟨t, ht, ?_⟩
    split_ifs
    · exact ⟨⟨rfl, rfl⟩, id⟩
    · exact ⟨⟨rfl, rfl⟩, id⟩

lemma Act.touched (h : Act off begun e e') : Touched off e e' := by
  cases h with
  | rest htasks hschedule hnext hread => exact .reads htasks hschedule hnext hread
  | enqueue c hc =>
    exact .of_tasks (.enqueue hc) List.prefix_rfl rfl fun t ht => ⟨t, ht, ⟨rfl, rfl⟩, id⟩
  | spawn k w _ => exact touches_spawn k w e
  | map f hf => exact touches_map hf
  | wake p => exact touches_wake p e
  | awaitTime i w delay _ => exact touches_awaitTime i w delay e
  | leave i =>
    exact .of_tasks .refl List.prefix_rfl rfl fun t ht =>
      ⟨t, (List.mem_filter.1 ht).1, ⟨rfl, rfl⟩, id⟩
  | callOff n hn =>
    exact .of_tasks (.callOff n hn .refl) List.prefix_rfl rfl fun t ht => ⟨t, ht, ⟨rfl, rfl⟩, id⟩

/-! ## All that is done -/

lemma Works.touched (h : Works off (fun _ _ => True) e e') : Touched off e e' := by
  induction h with
  | refl => exact .refl
  | tail _ hact htouched => exact htouched.trans hact.touched

/-- In a turn no timer is called off but the task's own. -/
lemma touches_runTask (t : Task) (e : Engine) :
    Touched (fun n => t.cancelled = true ∧ t.timer = some n) e (e.runTask t) :=
  (Works.runTask (fun _ hcancelled htimer => ⟨hcancelled, htimer⟩)
    (fun _ _ _ _ => trivial) e).touched

/-- Nothing but a turn calls a timer off. -/
lemma touches_make (c : Call) (e : Engine) : Touched (fun n => ∃ t ∈ e.tasks, c = .turn t.id ∧
    t.cancelled = true ∧ t.timer = some n) e (e.make c) :=
  (Works.make (fun t ht hc hcancelled _ htimer => ⟨t, ht, hc, hcancelled, htimer⟩)
    fun _ _ _ _ _ => trivial).touched

/-- Nor does what happens between the calls. -/
lemma Step.touches {next : Engine → Engine → Prop} (h : Step next e e') :
    next e e' ∨ Touched off e e' := by
  cases h with
  | call hcall => exact .inl hcall
  | start _ _ => exact .inr (Works.startListener 0 e).touched
  | stop _ _ =>
    refine .inr (Works.touched (Works.trans ?_ (.stopListening 0 _)))
    exact .same rfl rfl rfl rfl
  | sleep _ _ delay => exact .inr (Works.sleep delay e).touched
  | refresher => exact .inr (Works.startRefresher 0 e).touched
  | arrive _ a => exact .inr (Works.arrive a e).touched
  | operate _ s f => exact .inr (Works.operate 0 s f e).touched
  | world _ feed network disk _ hread => exact .inr (Works.touched (.same rfl rfl rfl hread))

/-! ## Timers of tasks -/

/-- Tasks wait for timers whose numbers were given out. -/
def TimersGiven (e : Engine) : Prop :=
  ∀ t ∈ e.tasks, ∀ n, t.timer = some n → n < e.schedule.nextTimer

lemma TimersGiven.touch (h : TimersGiven e) (htouched : Touched off e e') : TimersGiven e' := by
  intro t' ht' n hn
  obtain ⟨t, ht, -, hn⟩ | ⟨-, hlt⟩ := htouched.timers t' ht' n hn
  · exact (h t ht n hn).trans_le htouched.schedule.queue.2.1
  · exact hlt

end FeedWatch.Engine
