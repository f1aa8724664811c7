import FeedWatch.Engine.Basic
import Mathlib.Data.List.Nodup
import Mathlib.Tactic.Common

/-!
# The queue of turns

A task that is ready stands in the queue, unless it has its turn; the party outside has its turn all
the while it is awake.  `Lined` says that each of them is there once, and that the frames whose
handling has not begun stand in the queue in the order of their tasks.  What the engine does to its
tasks keeps the queue lined; while a task has its turn, it is the busy one.  `dropConnection` is what
is done when a connection is lost, before a reconnect is scheduled.
-/

namespace FeedWatch

/-- The frame that is handled next, if it is one. -/
def Work.frame? : Work → Option Payload
  | receive p => some p
  | _ => none

/-- The frame whose handling a task is about to begin, with the task. -/
def Task.pending? (t : Task) : Option (TaskId × Payload) := t.work.frame?.map fun p => (t.id, p)

/-- The frames whose handling has not begun, with their tasks. -/
def pendingOf (tasks : List Task) : List (TaskId × Payload) := tasks.filterMap Task.pending?

/-- The task whose turn a call is. -/
def Call.turn? : Call → Option TaskId
  | turn i => some i
  | _ => none

/-- The tasks that stand in the queue. -/
def turnsOf (queue : List Call) : List TaskId := queue.filterMap Call.turn?

/-- The tasks that have their turn or stand in the queue. -/
def lineOf (busy : Option TaskId) (isAwake : Bool) (queue : List Call) : List TaskId :=
  busy.toList ++ ((if isAwake then [Engine.outside] else []) ++ turnsOf queue)

/-- A queue in order, next to a task that has its turn. -/
structure Lined (busy : Option TaskId) (isAwake : Bool) (tasks : List Task) (queue : List Call) :
    Prop where
  ready : ∀ i ∈ lineOf busy isAwake queue, ∃ t ∈ tasks, t.id = i ∧ t.wait = .turn
  stands : ∀ t ∈ tasks, t.wait = .turn → t.id ∈ lineOf busy isAwake queue
  once : (lineOf busy isAwake queue).Nodup
  order : (((pendingOf tasks).map Prod.fst).filter fun i => busy ≠ some i).Sublist (turnsOf queue)

variable {busy : Option TaskId} {isAwake : Bool} {tasks : List Task} {queue : List Call}
variable {i j : TaskId} {t t' : Task} {f : Task → Task}

/-! ## Pending frames -/

@[simp]
lemma turnsOf_append (queue queue' : List Call) :
    turnsOf (queue ++ queue') = turnsOf queue ++ turnsOf queue' :=
  List.filterMap_append

lemma turnsOf_alarms (alarms : List Alarm) : turnsOf (alarms.map Call.alarm) = [] := by
  rw [turnsOf, List.filterMap_map]
  exact List.filterMap_eq_nil_iff.2 fun _ _ => rfl

lemma turnsOf_turns (ts : List Task) :
    turnsOf (ts.map fun t => Call.turn t.id) = ts.map Task.id := by
  rw [turnsOf, List.filterMap_map]
  exact congrFun (List.filterMap_eq_map (f := Task.id)) ts

lemma pending?_eq_some {q : TaskId × Payload} :
    t.pending? = some q ↔ t.work.frame? = some q.2 ∧ t.id = q.1 := by
  rw [Task.pending?, Option.map_eq_some_iff]
  constructor
  · rintro ⟨p, hp, rfl⟩
    exact ⟨hp, rfl⟩
  · rintro ⟨hp, hid⟩
    exact ⟨q.2, hp, by rw [hid]⟩

lemma pendingOf_concat (t : Task) (tasks : List Task) :
    pendingOf (tasks ++ [t]) = pendingOf tasks ++ t.pending?.toList := by
  rw [pendingOf, List.filterMap_append, pendingOf, List.filterMap_cons]
  cases t.pending? with
  | none => rfl
  | some q => rfl

/-- What changes neither numbers nor frames changes no pending frame. -/
lemma pendingOf_map (hid : ∀ t, (f t).id = t.id) (hwork : ∀ t, (f t).work.frame? = t.work.frame?)
    (tasks : List Task) : pendingOf (tasks.map f) = pendingOf tasks := by
  rw [pendingOf, List.filterMap_map]
  refine List.filterMap_congr fun t _ => ?_
  rw [Function.comp_apply, Task.pending?, hid, hwork, Task.pending?]

/-- A task that goes on to something else is no pending frame any more. -/
lemma pendingOf_alter (hwork : ∀ t, (f t).work.frame? = none) (i : TaskId) (tasks : List Task) :
    pendingOf (tasks.map fun t => if t.id = i then f t else t) =
      (pendingOf tasks).filter fun q => q.1 ≠ i := by
  rw [pendingOf, List.filterMap_map, pendingOf, List.filter_filterMap]
  refine List.filterMap_congr fun t _ => ?_
  rw [Function.comp_apply]
  by_cases h : t.id = i
  · rw [if_pos h, Task.pending?, hwork, Task.pending?, h]
    cases t.work.frame? with
    | none => rfl
    | some p => simp [Option.filter]
  · rw [if_neg h, Task.pending?]
    cases t.work.frame? with
    | none => rfl
    | some p => simp [h, Option.filter]

lemma pendingOf_filter (i : TaskId) (tasks : List Task) :
    pendingOf (tasks.filter fun t => t.id != i) = (pendingOf tasks).filter fun q => q.1 ≠ i := by
  rw [pendingOf, List.filterMap_filter, pendingOf, List.filter_filterMap]
  refine List.filterMap_congr fun t _ => ?_
  rw [Task.pending?]
  by_cases h : t.id = i
  · cases t.work.frame? with
    | none => simp [h]
    | some p => simp [h, Option.filter]
  · cases t.work.frame? with
    | none => simp [h]
    | some p => simp [h, Option.filter]

lemma map_ids (hid : ∀ t ∈ tasks, (f t).id = t.id) :
    (tasks.map f).map Task.id = tasks.map Task.id := by
  rw [List.map_map]
  exact List.map_congr_left hid

lemma map_filter_pending (i : TaskId) (tasks : List Task) :
    ((pendingOf tasks).filter fun q => q.1 ≠ i).map Prod.fst =
      ((pendingOf tasks).map Prod.fst).filter fun j => some i ≠ some j := by
  rw [List.filter_map]
  congr 1
  refine List.filter_congr fun q _ => ?_
  simp [eq_comm]

namespace Lined

/-- The party outside is awake, and nobody else is there. -/
lemma start : Lined none true [⟨Engine.outside, 0, .outside, .turn, none, false⟩] [] := by
  refine ⟨fun i hi => ⟨_, List.mem_singleton_self _, ?_, rfl⟩, fun t ht _ => ?_,
    List.nodup_singleton _, .refl _⟩
  · exact (List.mem_singleton.1 hi).symm
  · rw [List.mem_singleton.1 ht]
    exact List.mem_singleton_self _

/-! ## Calls are taken from the queue -/

/-- The task at the head of the queue takes its turn. -/
lemma take (h : Lined none isAwake tasks (.turn i :: queue)) :
    Lined (some i) isAwake tasks queue := by
  have hperm : (lineOf (some i) isAwake queue).Perm (lineOf none isAwake (.turn i :: queue)) := by
    change (i :: (_ ++ turnsOf queue)).Perm (_ ++ i :: turnsOf queue)
    exact List.perm_middle.symm
  have hnodup : (turnsOf (.turn i :: queue)).Nodup :=
    (List.nodup_append.1 (List.nodup_append.1 h.once).2.1).2.1
  refine ⟨fun j hj => h.ready j (hperm.mem_iff.1 hj),
    fun t ht hturn => hperm.mem_iff.2 (h.stands t ht hturn), hperm.nodup_iff.2 h.once, ?_⟩
  have horder := h.order.filter fun j => some i ≠ some j
  have hhead : (turnsOf (.turn i :: queue)).filter (fun j => some i ≠ some j) = turnsOf queue := by
    have hne : ∀ j ∈ turnsOf queue, decide (some i ≠ some j) = true := by
      rintro j hj
      refine decide_eq_true fun e => ?_
      cases e
      exact (List.nodup_cons.1 hnodup).1 hj
    exact (List.filter_cons_of_neg (by simp)).trans (List.filter_eq_self.2 hne)
  rw [hhead, List.filter_filter] at horder
  simpa using horder

/-- A pending frame at the head of the queue is the first one. -/
lemma first (h : Lined none isAwake tasks (.turn i :: queue))
    {before after : List (TaskId × Payload)} {p : Payload}
    (hp : pendingOf tasks = before ++ (i, p) :: after) : before = [] := by
  have hnodup : (turnsOf (.turn i :: queue)).Nodup :=
    (List.nodup_append.1 (List.nodup_append.1 h.once).2.1).2.1
  have horder := h.order
  rw [List.filter_eq_self.2 (by simp), hp, List.map_append, List.map_cons] at horder
  cases before with
  | nil => rfl
  | cons q before =>
    -- the head of the queue would stand behind another one
    have hhead : (q.1 :: (before.map Prod.fst ++ i :: after.map Prod.fst)).Sublist
        (i :: turnsOf queue) := horder
    have hmem : i ∈ turnsOf queue := by
      cases hhead with
      | cons _ hrest => exact hrest.subset (by simp)
      | cons_cons _ hrest => exact hrest.subset (by simp)
    exact absurd hmem (List.nodup_cons.1 hnodup).1

/-! ## Tasks are changed, added and removed -/

lemma map (h : Lined busy isAwake tasks queue) (hid : ∀ t, (f t).id = t.id)
    (hwork : ∀ t, (f t).work.frame? = t.work.frame?)
    (hwait : ∀ t, (f t).wait = .turn ↔ t.wait = .turn) :
    Lined busy isAwake (tasks.map f) queue := by
  refine ⟨fun i hi => ?_, fun t' ht' hturn => ?_, h.once, ?_⟩
  · obtain ⟨t, ht, rfl, hturn⟩ := h.ready i hi
    exact ⟨f t, List.mem_map_of_mem ht, hid t, (hwait t).2 hturn⟩
  · obtain ⟨t, ht, rfl⟩ := List.mem_map.1 ht'
    rw [hid]
    exact h.stands t ht ((hwait t).1 hturn)
  · rw [pendingOf_map hid hwork]
    exact h.order

/-- The task is not the busy one. -/
lemma stands_other (h : Lined (some i) isAwake tasks queue) (ht : t ∈ tasks) (hne : t.id ≠ i)
    (hturn : t.wait = .turn) : t.id ∈ lineOf none isAwake queue :=
  (List.mem_cons.1 (h.stands t ht hturn)).resolve_left hne

/-- A task in the queue is not the busy one. -/
lemma ready_other (h : Lined (some i) isAwake tasks queue) (hj : j ∈ lineOf none isAwake queue) :
    ∃ t ∈ tasks, t.id = j ∧ t.wait = .turn ∧ t.id ≠ i := by
  obtain ⟨t, ht, rfl, hturn⟩ := h.ready j (List.mem_cons_of_mem _ hj)
  refine ⟨t, ht, rfl, hturn, ?_⟩
  rintro rfl
  exact (List.nodup_cons.1 h.once).1 hj

/-- The busy task waits for something other than its turn. -/
lemma await (h : Lined (some i) isAwake tasks queue)
    (hwork : ∀ t, (f t).work.frame? = none) (hwait : ∀ t, (f t).wait ≠ .turn) :
    Lined none isAwake (tasks.map fun t => if t.id = i then f t else t) queue := by
  refine ⟨fun j hj => ?_, fun t' ht' hturn => ?_, (List.nodup_cons.1 h.once).2, ?_⟩
  · obtain ⟨t, ht, rfl, hturn, hne⟩ := h.ready_other hj
    exact ⟨t, List.mem_map.2 ⟨t, ht, if_neg hne⟩, rfl, hturn⟩
  · obtain ⟨t, ht, rfl⟩ := List.mem_map.1 ht'
    split_ifs at hturn ⊢ with hid
    · exact absurd hturn (hwait t)
    · exact h.stands_other ht hid hturn
  · rw [pendingOf_alter hwork, map_filter_pending, List.filter_eq_self.2 (by simp)]
    exact h.order

/-- The busy task goes to the end of the queue. -/
lemma requeue (h : Lined (some i) isAwake tasks queue) (hid : ∀ t, (f t).id = t.id)
    (hwork : ∀ t, (f t).work.frame? = none) (hturn : ∀ t, (f t).wait = .turn) :
    Lined none isAwake (tasks.map fun t => if t.id = i then f t else t) (queue ++ [.turn i]) := by
  have hperm : (lineOf none isAwake (queue ++ [.turn i])).Perm (lineOf (some i) isAwake queue) := by
    rw [lineOf, lineOf, turnsOf_append, ← List.append_assoc, ← List.append_assoc]
    exact List.perm_append_singleton _ _
  refine ⟨fun j hj => ?_, fun t' ht' hstands => ?_, hperm.nodup_iff.2 h.once, ?_⟩
  · obtain ⟨t, ht, hti, hready⟩ := h.ready j (hperm.mem_iff.1 hj)
    refine ⟨_, List.mem_map.2 ⟨t, ht, rfl⟩, ?_⟩
    split_ifs
    · exact ⟨(hid t).trans hti, hturn t⟩
    · exact ⟨hti, hready⟩
  · refine hperm.mem_iff.2 ?_
    obtain ⟨t, ht, rfl⟩ := List.mem_map.1 ht'
    split_ifs at hstands ⊢ with hti
    · rw [hid, hti]
      exact List.mem_cons_self
    · exact h.stands t ht hstands
  · rw [turnsOf_append, pendingOf_alter hwork, map_filter_pending, List.filter_eq_self.2 (by simp)]
    exact h.order.trans (List.sublist_append_left _ _)

/-- The busy task is done. -/
lemma leave (h : Lined (some i) isAwake tasks queue) :
    Lined none isAwake (tasks.filter fun t => t.id != i) queue := by
  refine ⟨fun j hj => ?_, fun t ht hturn => ?_, (List.nodup_cons.1 h.once).2, ?_⟩
  · obtain ⟨t, ht, rfl, hturn, hne⟩ := h.ready_other hj
    exact ⟨t, List.mem_filter.2 ⟨ht, bne_iff_ne.2 hne⟩, rfl, hturn⟩
  · obtain ⟨ht, hne⟩ := List.mem_filter.1 ht
    exact h.stands_other ht (bne_iff_ne.1 hne) hturn
  · rw [pendingOf_filter, map_filter_pending, List.filter_eq_self.2 (by simp)]
    exact h.order

/-- A task that is new stands at the end of the queue. -/
lemma spawn (h : Lined busy isAwake tasks queue) (hnew : ∀ t' ∈ tasks, t'.id ≠ t.id)
    (hturn : t.wait = .turn) : Lined busy isAwake (tasks ++ [t]) (queue ++ [.turn t.id]) := by
  have hout : t.id ∉ lineOf busy isAwake queue := by
    intro hi
    obtain ⟨t', ht', hid, -⟩ := h.ready _ hi
    exact hnew t' ht' hid
  have hline :
      lineOf busy isAwake (queue ++ [.turn t.id]) = lineOf busy isAwake queue ++ [t.id] := by
    rw [lineOf, lineOf, turnsOf_append, ← List.append_assoc, ← List.append_assoc,
      ← List.append_assoc]
    rfl
  refine ⟨fun i hi => ?_, fun t' ht' hturn' => ?_, ?_, ?_⟩
  · rw [hline] at hi
    obtain hi | hi := List.mem_append.1 hi
    · obtain ⟨t', ht', h'⟩ := h.ready i hi
      exact ⟨t', List.mem_append_left _ ht', h'⟩
    · exact ⟨t, List.mem_append_right _ List.mem_cons_self, (List.mem_singleton.1 hi).symm, hturn⟩
  · rw [hline]
    obtain ht' | ht' := List.mem_append.1 ht'
    · exact List.mem_append_left _ (h.stands t' ht' hturn')
    · rw [List.mem_singleton.1 ht']
      exact List.mem_append_right _ List.mem_cons_self
  · rw [hline]
    refine List.nodup_append.2 ⟨h.once, List.nodup_singleton _, fun i hi j hj e => ?_⟩
    rw [List.mem_singleton.1 hj] at e
    exact hout (e ▸ hi)
  · have hpending : (t.pending?.toList.map Prod.fst).Sublist [t.id] := by
      rw [Task.pending?]
      cases t.work.frame? with
      | none => exact List.nil_sublist _
      | some p => exact List.Sublist.refl _
    rw [turnsOf_append, pendingOf_concat, List.map_append, List.filter_append]
    exact h.order.append (List.filter_sublist.trans hpending)

/-- Tasks that wait for something else join the queue. -/
lemma wake (h : Lined busy isAwake tasks queue) (hunique : (tasks.map Task.id).Nodup)
    (p : Task → Bool) (hp : ∀ t, p t = true → t.wait ≠ .turn) :
    Lined busy isAwake (tasks.map fun t => if p t then { t with wait := .turn } else t)
      (queue ++ (tasks.filter p).map fun t => .turn t.id) := by
  have hline : lineOf busy isAwake (queue ++ (tasks.filter p).map fun t => .turn t.id) =
      lineOf busy isAwake queue ++ (tasks.filter p).map Task.id := by
    rw [lineOf, lineOf, turnsOf_append, turnsOf_turns, ← List.append_assoc, ← List.append_assoc,
      ← List.append_assoc]
  refine ⟨fun i hi => ?_, fun t' ht' hturn => ?_, ?_, ?_⟩
  · rw [hline] at hi
    obtain hi | hi := List.mem_append.1 hi
    · obtain ⟨t, ht, rfl, hturn⟩ := h.ready i hi
      refine ⟨_, List.mem_map.2 ⟨t, ht, rfl⟩, ?_⟩
      split_ifs
      · exact ⟨rfl, rfl⟩
      · exact ⟨rfl, hturn⟩
    · obtain ⟨t, ht, rfl⟩ := List.mem_map.1 hi
      obtain ⟨ht, hpt⟩ := List.mem_filter.1 ht
      exact ⟨{ t with wait := .turn }, List.mem_map.2 ⟨t, ht, if_pos hpt⟩, rfl, rfl⟩
  · rw [hline]
    obtain ⟨t, ht, rfl⟩ := List.mem_map.1 ht'
    split_ifs at hturn ⊢ with hpt
    · exact List.mem_append_right _ (List.mem_map.2 ⟨t, List.mem_filter.2 ⟨ht, hpt⟩, rfl⟩)
    · exact List.mem_append_left _ (h.stands t ht hturn)
  · rw [hline]
    refine List.nodup_append.2 ⟨h.once, hunique.sublist (List.filter_sublist.map _), ?_⟩
    rintro i hi j hj rfl
    obtain ⟨t, ht, hti⟩ := List.mem_map.1 hj
    obtain ⟨ht, hpt⟩ := List.mem_filter.1 ht
    obtain ⟨t', ht', hti', hturn⟩ := h.ready i hi
    have heq : t' = t := List.inj_on_of_nodup_map hunique ht' ht (hti'.trans hti.symm)
    exact hp t hpt (heq ▸ hturn)
  · have hpending : pendingOf (tasks.map fun t => if p t then { t with wait := .turn } else t) =
        pendingOf tasks := by
      refine pendingOf_map (fun t => ?_) (fun t => ?_) tasks
      · split_ifs
        · rfl
        · rfl
      · split_ifs
        · rfl
        · rfl
    rw [turnsOf_append, hpending]
    exact h.order.trans (List.sublist_append_left _ _)

/-! ## The party outside -/

/-- While it is awake, the party outside has its turn. -/
lemma wake_outside (h : Lined (some Engine.outside) false tasks queue)
    (hpending : ∀ q ∈ pendingOf tasks, q.1 ≠ Engine.outside) : Lined none true tasks queue := by
  refine ⟨h.ready, h.stands, h.once, ?_⟩
  have hfilter : ((pendingOf tasks).map Prod.fst).filter
      (fun i => some Engine.outside ≠ some i) = (pendingOf tasks).map Prod.fst := by
    refine List.filter_eq_self.2 fun i hi => ?_
    obtain ⟨q, hq, rfl⟩ := List.mem_map.1 hi
    exact decide_eq_true fun e => hpending q hq (Option.some.inj e).symm
  have horder := h.order
  rw [hfilter] at horder
  rw [List.filter_eq_self.2 (by simp)]
  exact horder

/-- Other calls do not matter. -/
lemma congr {queue' : List Call} (h : Lined busy isAwake tasks queue)
    (hqueue : turnsOf queue' = turnsOf queue) : Lined busy isAwake tasks queue' := by
  have hline : lineOf busy isAwake queue' = lineOf busy isAwake queue := by
    rw [lineOf, hqueue, lineOf]
  exact ⟨hline ▸ h.ready, hline ▸ h.stands, hline ▸ h.once, hqueue ▸ h.order⟩

lemma of_awake (h : Lined none true tasks queue) :
    Lined (some Engine.outside) false tasks queue := by
  refine ⟨h.ready, h.stands, h.once, ?_⟩
  have horder := h.order
  rw [List.filter_eq_self.2 (by simp)] at horder
  exact List.filter_sublist.trans horder

end Lined

/-! ## Engines in order -/

namespace Engine

/-- There is one station, all tasks are its own and numbered, and if calls are made in order, the
queue is. -/
structure Orderly (fifo : Prop) (busy : Option TaskId) (e : Engine) : Prop where
  station : ∃ s, e.stations = [s]
  home : ∀ t ∈ e.tasks, t.station = 0
  unique : (e.tasks.map Task.id).Nodup
  below : ∀ t ∈ e.tasks, t.id < e.nextTask
  party : outside < e.nextTask
  live : ∀ i, busy = some i → e.isLive i = true
  lined : fifo → Lined busy e.isAwake e.tasks e.schedule.queue

variable {e e' : Engine} {fifo : Prop}

/-! ### The task with a number -/

lemma find?_map_task (hid : ∀ t, (f t).id = t.id) (ts : List Task) (i : TaskId) :
    (ts.map f).find? (·.id == i) = (ts.find? (·.id == i)).map f := by
  rw [List.find?_map]
  congr 2
  funext t
  rw [Function.comp_apply, hid]

lemma id_of_task? (h : e.task? i = some t) : t.id = i := by
  simpa using List.find?_some h

lemma mem_of_task? (h : e.task? i = some t) : t ∈ e.tasks := List.mem_of_find?_eq_some h

lemma isLive_of_mem (h : t ∈ e.tasks) : e.isLive t.id = true := by
  rw [isLive, task?, List.find?_isSome]
  exact ⟨t, h, beq_self_eq_true _⟩

lemma mem_alterTask (ht : t ∈ (e.alterTask i f).tasks) :
    (t ∈ e.tasks ∧ t.id ≠ i) ∨ ∃ t₀ ∈ e.tasks, t₀.id = i ∧ t = f t₀ := by
  obtain ⟨t₀, ht₀, rfl⟩ := List.mem_map.1 ht
  split_ifs with hid
  · exact .inr ⟨t₀, ht₀, hid, rfl⟩
  · exact .inl ⟨ht₀, hid⟩

lemma task?_alterTask (hid : ∀ t, (f t).id = t.id) (i j : TaskId) :
    (e.alterTask i f).task? j = if j = i then (e.task? j).map f else e.task? j := by
  have hid' : ∀ t : Task, (if t.id = i then f t else t).id = t.id := by
    intro t
    split_ifs
    · exact hid t
    · rfl
  rw [task?, alterTask, find?_map_task hid']
  cases h : e.task? j with
  | none =>
    rw [task?] at h
    simp [h]
  | some t =>
    have hj := id_of_task? h
    rw [task?] at h
    simp only [h, Option.map_some, hj]
    split_ifs
    · rfl
    · rfl

lemma task?_wake (p : Task → Bool) (j : TaskId) :
    (e.wake p).task? j = (e.task? j).map fun t => if p t then { t with wait := .turn } else t := by
  have hid : ∀ t : Task, (if p t then { t with wait := .turn } else t).id = t.id := by
    intro t
    split_ifs
    · rfl
    · rfl
  rw [task?, wake, find?_map_task hid]
  rfl

lemma task?_filter (i j : TaskId) :
    (e.tasks.filter fun t => t.id != i).find? (·.id == j) = if j = i then none else e.task? j := by
  rw [List.find?_filter]
  split_ifs with h
  · rw [List.find?_eq_none]
    intro t _
    simp [h]
  · rw [task?]
    congr 1
    funext t
    by_cases hj : t.id = j
    · simp [hj, h]
    · simp [hj]

lemma task?_spawn (k : Nat) (w : Work) (hnext : e.task? e.nextTask = none) (j : TaskId) :
    (e.spawn k w).task? j =
      if j = e.nextTask then some ⟨e.nextTask, k, w, .turn, none, false⟩ else e.task? j := by
  rw [task?, spawn, List.find?_append]
  split_ifs with h
  · subst h
    rw [task?] at hnext
    simp [hnext]
  · have hne : (e.nextTask == j) = false := by
      rw [beq_eq_false_iff_ne]
      exact Ne.symm h
    simp [hne, task?]

/-- A task that is cancelled is still there. -/
lemma isLive_cancel (i j : TaskId) : (e.cancel i).isLive j = e.isLive j := by
  rw [isLive, cancel, task?_wake, Option.isSome_map,
    task?_alterTask (f := fun t => { t with cancelled := true }) fun _ => rfl, isLive]
  split_ifs
  · rw [Option.isSome_map]
  · rfl

/-! ### A connection is lost -/

/-- The heartbeat of a listener is cancelled, if it has one. -/
def dropHeartbeat (k : Nat) (e : Engine) : Engine :=
  match (e.listener k).heartbeat with
  | some i => e.cancel i
  | none => e

/-- A listener no longer has a connection, nor a heartbeat. -/
def dropConnection (k : Nat) (e : Engine) : Engine :=
  (e.dropHeartbeat k).alterListener k fun l => { l with
    heartbeat := none, socket := none, phase := .disconnected }

/-- Once the connection is dropped, a listener that runs schedules a reconnect. -/
lemma disconnected_eq (k : Nat) (e : Engine) : e.disconnected k =
    if ((e.dropConnection k).listener k).running then (e.dropConnection k).scheduleReconnect k
    else e.dropConnection k :=
  rfl

lemma dropHeartbeat_cases (k : Nat) (e : Engine) :
    (e.listener k).heartbeat = none ∧ e.dropHeartbeat k = e ∨
      ∃ i, (e.listener k).heartbeat = some i ∧ e.dropHeartbeat k = e.cancel i := by
  rw [dropHeartbeat]
  cases (e.listener k).heartbeat with
  | none => exact .inl ⟨rfl, rfl⟩
  | some i => exact .inr ⟨i, rfl, rfl⟩

/-- Nothing but the tasks and their queue change with the heartbeat. -/
lemma exists_dropHeartbeat (k : Nat) (e : Engine) :
    ∃ tasks schedule, e.dropHeartbeat k = { e with tasks, schedule } := by
  obtain ⟨-, h⟩ | ⟨i, -, h⟩ := dropHeartbeat_cases k e
  · exact ⟨e.tasks, e.schedule, h⟩
  · exact ⟨_, _, h⟩

lemma nextTask_dropConnection (k : Nat) (e : Engine) :
    (e.dropConnection k).nextTask = e.nextTask := by
  obtain ⟨tasks, schedule, h⟩ := exists_dropHeartbeat k e
  rw [dropConnection, h]
  rfl

lemma feed_dropConnection (k : Nat) (e : Engine) : (e.dropConnection k).feed = e.feed := by
  obtain ⟨tasks, schedule, h⟩ := exists_dropHeartbeat k e
  rw [dropConnection, h]
  rfl

lemma timing_dropConnection (k : Nat) (e : Engine) : (e.dropConnection k).timing = e.timing := by
  obtain ⟨tasks, schedule, h⟩ := exists_dropHeartbeat k e
  rw [dropConnection, h]
  rfl

lemma isHeldLive_dropConnection (k : Nat) (held : Option TaskId) (e : Engine) :
    (e.dropConnection k).isHeldLive held = e.isHeldLive held := by
  have hlive : ∀ j, (e.dropHeartbeat k).isLive j = e.isLive j := by
    intro j
    obtain ⟨-, h⟩ | ⟨i, -, h⟩ := dropHeartbeat_cases k e
    · rw [h]
    · rw [h, isLive_cancel]
  cases held with
  | none => rfl
  | some j => exact hlive j

lemma listener_of_station (h : ∃ st, e.stations = [st]) (f : Listener → Listener) :
    (e.alterListener 0 f).listener 0 = f (e.listener 0) := by
  obtain ⟨st, hst⟩ := h
  simp [listener, alterListener, alterStation, hst]

lemma listener_dropConnection (h : ∃ st, e.stations = [st]) :
    (e.dropConnection 0).listener 0 = { e.listener 0 with
      heartbeat := none, socket := none, phase := .disconnected } := by
  obtain ⟨tasks, schedule, hdrop⟩ := exists_dropHeartbeat 0 e
  have hstation : ∃ st, (e.dropHeartbeat 0).stations = [st] := by rwa [hdrop]
  rw [dropConnection, listener_of_station hstation, hdrop]
  rfl

/-! ### What keeps the order -/

namespace Orderly

lemma next_none (h : e.Orderly fifo busy) : e.task? e.nextTask = none := by
  rw [task?, List.find?_eq_none]
  intro t ht
  rw [beq_iff_eq]
  exact Nat.ne_of_lt (h.below t ht)

lemma task?_of_mem (h : e.Orderly fifo busy) (ht : t ∈ e.tasks) : e.task? t.id = some t := by
  obtain ⟨t', ht'⟩ := Option.isSome_iff_exists.1 (isLive_of_mem ht)
  have heq : t' = t := List.inj_on_of_nodup_map h.unique (mem_of_task? ht') ht (id_of_task? ht')
  rw [ht', heq]

/-- What leaves tasks and turns alone keeps the order. -/
lemma same (h : e.Orderly fifo busy) (hstation : ∃ s, e'.stations = [s])
    (htasks : e'.tasks = e.tasks) (hnext : e'.nextTask = e.nextTask)
    (hqueue : turnsOf e'.schedule.queue = turnsOf e.schedule.queue)
    (hawake : e'.isAwake = e.isAwake) : e'.Orderly fifo busy := by
  refine ⟨hstation, htasks ▸ h.home, htasks ▸ h.unique, ?_, hnext ▸ h.party, fun i hi => ?_,
    fun hfifo => ?_⟩
  · rw [htasks, hnext]
    exact h.below
  · rw [isLive, task?, htasks]
    exact h.live i hi
  · rw [hawake, htasks]
    exact (h.lined hfifo).congr hqueue

lemma alterStation (h : e.Orderly fifo busy) (f : Station → Station) :
    (e.alterStation 0 f).Orderly fifo busy := by
  obtain ⟨s, hs⟩ := h.station
  refine h.same ⟨f s, ?_⟩ rfl rfl rfl rfl
  rw [Engine.alterStation, hs]
  rfl

lemma alterListener (h : e.Orderly fifo busy) (f : Listener → Listener) :
    (e.alterListener 0 f).Orderly fifo busy := h.alterStation _

lemma enqueue (h : e.Orderly fifo busy) {c : Call} (hc : c.turn? = none) :
    (e.enqueue c).Orderly fifo busy := by
  refine h.same h.station rfl rfl ?_ rfl
  rw [Engine.enqueue, Schedule.enqueue, turnsOf_append]
  simp [turnsOf, hc]

lemma spawn (h : e.Orderly fifo busy) (w : Work) : (e.spawn 0 w).Orderly fifo busy := by
  refine ⟨h.station, fun t ht => ?_, ?_, fun t ht => ?_, Nat.lt_succ_of_lt h.party,
    fun i hi => ?_, fun hfifo => ?_⟩
  · obtain ht | ht := List.mem_append.1 ht
    · exact h.home t ht
    · rw [List.mem_singleton.1 ht]
  · change ((e.tasks ++ [_]).map Task.id).Nodup
    rw [List.map_append]
    refine List.nodup_append.2 ⟨h.unique, List.nodup_singleton _, fun i hi j hj => ?_⟩
    obtain ⟨t, ht, rfl⟩ := List.mem_map.1 hi
    rw [List.mem_singleton.1 hj]
    exact Nat.ne_of_lt (h.below t ht)
  · obtain ht | ht := List.mem_append.1 ht
    · exact Nat.lt_succ_of_lt (h.below t ht)
    · rw [List.mem_singleton.1 ht]
      exact Nat.lt_succ_self _
  · rw [isLive, task?_spawn 0 w h.next_none]
    split_ifs
    · rfl
    · exact h.live i hi
  · exact (h.lined hfifo).spawn (fun t ht => Nat.ne_of_lt (h.below t ht)) rfl

/-- Tasks are changed, and the queue fits them. -/
lemma map (h : e.Orderly fifo busy) (hid : ∀ t, (f t).id = t.id)
    (hstation : ∀ t, (f t).station = t.station) {busy' : Option TaskId} {s : Schedule}
    (hbusy : ∀ i, busy' = some i → busy = some i)
    (hlined : fifo → Lined busy' e.isAwake (e.tasks.map f) s.queue) :
    Orderly fifo busy' { e with tasks := e.tasks.map f, schedule := s } := by
  refine ⟨h.station, fun t ht => ?_, (map_ids fun t _ => hid t).symm ▸ h.unique, fun t ht => ?_,
    h.party, fun i hi => ?_, hlined⟩
  · obtain ⟨t', hmem, rfl⟩ := List.mem_map.1 ht
    exact (hstation t').trans (h.home t' hmem)
  · obtain ⟨t', hmem, rfl⟩ := List.mem_map.1 ht
    exact (hid t').symm ▸ h.below t' hmem
  · rw [isLive, task?, find?_map_task hid, Option.isSome_map]
    exact h.live i (hbusy i hi)

lemma wake (h : e.Orderly fifo busy) (p : Task → Bool) (hp : ∀ t, p t = true → t.wait ≠ .turn) :
    (e.wake p).Orderly fifo busy := by
  refine h.map (fun t => ?_) (fun t => ?_) (fun _ => id) fun hfifo =>
    (h.lined hfifo).wake h.unique p hp
  · split_ifs
    · rfl
    · rfl
  · split_ifs
    · rfl
    · rfl

lemma cancel (h : e.Orderly fifo busy) (j : TaskId) : (e.cancel j).Orderly fifo busy := by
  have halter : Orderly fifo busy (e.alterTask j fun t => { t with cancelled := true }) := by
    refine h.map (s := e.schedule) (fun t => ?_) (fun t => ?_) (fun _ => id) fun hfifo =>
      (h.lined hfifo).map (fun t => ?_) (fun t => ?_) fun t => ?_
    all_goals split_ifs
    all_goals rfl
  exact halter.wake _ fun t ht => by simpa using (Bool.and_eq_true_iff.1 ht).2

/-- The busy task waits. -/
lemma dropConnection (h : e.Orderly fifo busy) : (e.dropConnection 0).Orderly fifo busy := by
  refine alterListener ?_ _
  obtain ⟨-, hdrop⟩ | ⟨i, -, hdrop⟩ := dropHeartbeat_cases 0 e
  · rwa [hdrop]
  · rw [hdrop]
    exact h.cancel i

lemma alterTask (h : e.Orderly fifo (some i)) {s : Schedule} (hid : ∀ t, (f t).id = t.id)
    (hstation : ∀ t, (f t).station = t.station)
    (hlined : fifo → Lined none e.isAwake (e.alterTask i f).tasks s.queue) :
    Orderly fifo none { e.alterTask i f with schedule := s } := by
  refine h.map (fun t => ?_) (fun t => ?_) (by nofun) hlined
  · split_ifs
    · exact hid t
    · rfl
  · split_ifs
    · exact hstation t
    · rfl

lemma await (h : e.Orderly fifo (some i)) {w : Work} (hw : w.frame? = none) {wait : Wait}
    (hwait : wait ≠ .turn) : (e.await i w wait).Orderly fifo none :=
  h.alterTask (s := e.schedule) (fun _ => rfl) (fun _ => rfl) fun hfifo =>
    (h.lined hfifo).await (fun _ => hw) fun _ => hwait

lemma awaitTime (h : e.Orderly fifo (some i)) {w : Work} (hw : w.frame? = none)
    (delay : Binary64) : (e.awaitTime i w delay).Orderly fifo none := by
  rw [Engine.awaitTime]
  split_ifs
  · exact h.alterTask (fun _ => rfl) (fun _ => rfl) fun hfifo =>
      (h.lined hfifo).requeue (fun _ => rfl) (fun _ => hw) fun _ => rfl
  · exact h.alterTask (fun _ => rfl) (fun _ => rfl) fun hfifo =>
      (h.lined hfifo).await (fun _ => hw) fun _ => nofun

lemma finishTask (h : e.Orderly fifo (some i)) : (e.finishTask i).Orderly fifo none := by
  refine Orderly.wake (e := { e with tasks := e.tasks.filter (·.id != i) }) ?_ _
    fun t hp hturn => ?_
  · exact ⟨h.station, fun t ht => h.home t (List.mem_of_mem_filter ht),
      h.unique.sublist (List.filter_sublist.map _),
      fun t ht => h.below t (List.mem_of_mem_filter ht), h.party, by nofun,
      fun hfifo => (h.lined hfifo).leave⟩
  · rw [hturn] at hp
    cases hp

/-- The party outside has its turn and is not awake. -/
lemma asleep (h : e.Orderly fifo (some outside)) :
    Orderly fifo (some outside) { e with isAwake := false } := by
  refine { h with lined := fun hfifo => ?_ }
  have hlined := h.lined hfifo
  cases hawake : e.isAwake with
  | true =>
    rw [hawake] at hlined
    exact absurd List.mem_cons_self (List.nodup_cons.1 hlined.once).1
  | false =>
    rw [hawake] at hlined
    exact hlined

lemma awaken (h : e.Orderly fifo (some outside))
    (hpending : ∀ q ∈ pendingOf e.tasks, q.1 ≠ outside) :
    Orderly fifo none { e with isAwake := true } :=
  { h with
    live := by nofun
    lined := fun hfifo => (h.asleep.lined hfifo).wake_outside hpending }

lemma of_awake (h : e.Orderly fifo none) (hawake : e.isAwake = true)
    (hlive : e.isLive outside = true) :
    Orderly fifo (some outside) { e with isAwake := false } := by
  refine { h with live := ?_, lined := fun hfifo => ?_ }
  · rintro i hi
    cases hi
    exact hlive
  · have hlined := h.lined hfifo
    rw [hawake] at hlined
    exact hlined.of_awake

end Orderly

end Engine

end FeedWatch
