import FeedWatch.Proofs.Engine.Queue
import FeedWatch.Proofs.Listener.Moves

/-!
# The engine in outline

`Engine.outline` is the outline of the listener of the first station.  What the engine does to its
tasks is a change of the outline, one lemma for each way to change them.
-/

namespace FeedWatch

/-- The task whose end is waited for. -/
def Wait.completion? : Wait → Option TaskId
  | completion i => some i
  | _ => none

namespace Engine

/-- The frames whose handling has begun. -/
def received (e : Engine) : List Payload := e.stations[0]?.elim [] (·.pipeline.received)

/-- The outline of the listener of the first station. -/
def outline (e : Engine) : Outline where
  listener := e.listener 0
  duty i := (e.task? i).map (·.work.duty)
  cancelled i := (e.task? i).any (·.cancelled)
  pending := pendingOf e.tasks
  next := e.nextTask
  closings := e.feed.sockets.map (·.closings)
  read := e.feed.read
  received := e.received
  stopping := e.stopping
  awaited := (e.task? outside).bind (·.wait.completion?)
  isAwake := e.isAwake

variable {e e' : Engine} {fifo : Prop} {busy : Option TaskId} {i j : TaskId} {d : Duty} {w : Work}
variable {t : Task} {f : Task → Task}

/-! ## The feed -/

/-- A change of a socket, seen in what is kept of it. -/
lemma map_alter {β : Type} {k : Socket → β} {g : Socket → Socket} {h : β → β}
    (hg : ∀ s, k (g s) = h (k s)) (socket : Nat) (feed : Feed) :
    (feed.alter socket g).sockets.map k = (feed.sockets.map k).modify socket h := by
  refine List.ext_getElem? fun n => ?_
  simp only [Feed.alter, List.getElem?_map, List.getElem?_modify]
  cases feed.sockets[n]? with
  | none => rfl
  | some s =>
    by_cases hn : socket = n
    · simp [hn, hg]
    · simp [hn]

/-- A change of a socket that leaves alone what is kept of it. -/
lemma map_alter_id {β : Type} {k : Socket → β} {g : Socket → Socket} (hg : ∀ s, k (g s) = k s)
    (socket : Nat) (feed : Feed) : (feed.alter socket g).sockets.map k = feed.sockets.map k := by
  rw [map_alter (h := id) hg, List.modify_id]

lemma closings_send (socket : Nat) (text : String) (feed : Feed) :
    (feed.send socket text).1.sockets.map Socket.closings = feed.sockets.map Socket.closings := by
  rw [Feed.send]
  split
  · rfl
  · refine map_alter_id (fun _ => ?_) socket feed
    rfl

lemma read_send (socket : Nat) (text : String) (feed : Feed) :
    (feed.send socket text).1.read = feed.read := by
  rw [Feed.send]
  split
  · rfl
  · rfl

lemma closings_arrive (a : Arrival) (feed : Feed) :
    (feed.arrive a).sockets.map Socket.closings = feed.sockets.map Socket.closings := by
  refine map_alter_id (fun _ => ?_) _ feed
  rfl

/-- What is taken from an inbox is read. -/
lemma next?_eq_some {socket : Nat} {a : Arrival} {feed feed' : Feed}
    (h : feed.next? socket = some (a, feed')) :
    feed'.sockets.map Socket.closings = feed.sockets.map Socket.closings ∧
      feed'.read = feed.read ++ [(socket, a)] := by
  rw [Feed.next?] at h
  split at h
  · split at h
    · cases h
    · cases h
      refine ⟨map_alter_id (fun _ => ?_) socket feed, rfl⟩
      rfl
  · cases h

/-- A feed with the same sockets and readings looks the same. -/
lemma outline_feed {feed : Feed}
    (hclosings : feed.sockets.map Socket.closings = e.feed.sockets.map Socket.closings)
    (hread : feed.read = e.feed.read) : outline { e with feed } = e.outline := by
  rw [outline, outline]
  simp only [hclosings, hread]
  rfl

lemma outline_next? {socket : Nat} {a : Arrival} {feed : Feed}
    (h : e.feed.next? socket = some (a, feed)) :
    outline { e with feed } = e.outline.hear socket a := by
  obtain ⟨hclosings, hread⟩ := next?_eq_some h
  rw [outline, outline, Outline.hear]
  simp only [hclosings, hread]
  rfl

/-! ## Tasks and stations -/

lemma outline_duty (e : Engine) (i : TaskId) :
    e.outline.duty i = (e.task? i).map (·.work.duty) := rfl

lemma outline_cancelled (e : Engine) (i : TaskId) :
    e.outline.cancelled i = (e.task? i).any (·.cancelled) := rfl

lemma outline_awaited (e : Engine) :
    e.outline.awaited = (e.task? outside).bind (·.wait.completion?) := rfl

/-- A task is there when it has a duty. -/
lemma isLive_eq (e : Engine) (i : TaskId) : e.isLive i = (e.outline.duty i).isSome := by
  rw [isLive, outline_duty, Option.isSome_map]

lemma exists_of_isHeldLive {held : Option TaskId} (h : e.isHeldLive held = true) :
    ∃ i d, held = some i ∧ e.outline.duty i = some d := by
  obtain ⟨i, rfl⟩ : ∃ i, held = some i := by
    cases held with
    | none => cases h
    | some i => exact ⟨i, rfl⟩
  rw [isHeldLive, Option.any_some, isLive_eq] at h
  obtain ⟨d, hd⟩ := Option.isSome_iff_exists.1 h
  exact ⟨i, d, rfl, hd⟩

lemma outline_alterListener (h : e.Orderly fifo busy) (g : Listener → Listener) :
    (e.alterListener 0 g).outline = { e.outline with listener := g e.outline.listener } := by
  obtain ⟨s, hs⟩ := h.station
  have hreceived : (e.alterListener 0 g).received = e.received := by
    simp [received, alterListener, alterStation, hs]
  rw [outline, listener_of_station h.station, hreceived]
  rfl

/-- Of a change of the station that leaves the listener alone, only the frames that were received
are seen. -/
lemma outline_alterStation {s : Station} (hs : e.stations = [s]) (g : Station → Station)
    (hg : (g s).listener = s.listener) : (e.alterStation 0 g).outline = { e.outline with
      received := (g s).pipeline.received } := by
  have hlistener : (e.alterStation 0 g).listener 0 = e.listener 0 := by
    simp [listener, alterStation, hs, hg]
  have hreceived : (e.alterStation 0 g).received = (g s).pipeline.received := by
    simp [received, alterStation, hs]
  rw [outline, hlistener, hreceived]
  rfl

/-- A change of the station that leaves these alone too is not seen. -/
lemma outline_alterStation_of (h : e.Orderly fifo busy) (g : Station → Station)
    (hlistener : ∀ s, (g s).listener = s.listener)
    (hreceived : ∀ s, (g s).pipeline.received = s.pipeline.received) :
    (e.alterStation 0 g).outline = e.outline := by
  obtain ⟨s, hs⟩ := h.station
  have hnow : e.outline.received = s.pipeline.received := by
    rw [outline, received, hs]
    rfl
  rw [outline_alterStation hs g (hlistener s), hreceived, ← hnow]

/-- A task goes on to something that is no frame. -/
lemma outline_alterTask (hlive : e.isLive i = true) (hi : i ≠ outside)
    (hid : ∀ t, (f t).id = t.id) (hduty : ∀ t, (f t).work.duty = d)
    (hframe : ∀ t, (f t).work.frame? = none) (hcancelled : ∀ t, (f t).cancelled = t.cancelled) :
    (e.alterTask i f).outline = e.outline.put i d := by
  ext1
  case duty =>
    funext j
    simp only [outline, Outline.put, task?_alterTask hid, Function.update_apply]
    split_ifs with hj
    · subst hj
      obtain ⟨t, ht⟩ := Option.isSome_iff_exists.1 hlive
      simp [ht, hduty]
    · rfl
  case cancelled =>
    funext j
    simp only [outline, Outline.put, task?_alterTask hid]
    split_ifs
    · simp [Option.any_map, hcancelled]
    · rfl
  case pending => exact pendingOf_alter hframe i e.tasks
  case awaited =>
    simp only [outline, Outline.put, task?_alterTask hid, if_neg (Ne.symm hi)]
  all_goals rfl

lemma outline_await (hlive : e.isLive i = true) (hi : i ≠ outside) (hw : w.frame? = none)
    (wait : Wait) : (e.await i w wait).outline = e.outline.put i w.duty :=
  outline_alterTask hlive hi (fun _ => rfl) (fun _ => rfl) (fun _ => hw) fun _ => rfl

lemma outline_awaitTime (hlive : e.isLive i = true) (hi : i ≠ outside) (hw : w.frame? = none)
    (delay : Binary64) : (e.awaitTime i w delay).outline = e.outline.put i w.duty := by
  rw [awaitTime]
  split_ifs
  · exact outline_alterTask hlive hi (fun _ => rfl) (fun _ => rfl) (fun _ => hw) fun _ => rfl
  · exact outline_alterTask hlive hi (fun _ => rfl) (fun _ => rfl) (fun _ => hw) fun _ => rfl

lemma outline_spawn (h : e.Orderly fifo busy) (k : Nat) (w : Work) :
    (e.spawn k w).outline = { e.outline.spawn w.duty with
      pending := e.outline.pending ++ (w.frame?.map fun p => (e.nextTask, p)).toList } := by
  ext1
  case duty =>
    funext j
    simp only [outline, Outline.spawn, task?_spawn k w h.next_none, Function.update_apply]
    split_ifs
    · rfl
    · rfl
  case cancelled =>
    funext j
    simp only [outline, Outline.spawn, task?_spawn k w h.next_none]
    split_ifs with hj
    · rw [hj, h.next_none]
      rfl
    · rfl
  case pending => exact pendingOf_concat _ e.tasks
  case awaited =>
    simp only [outline, Outline.spawn, task?_spawn k w h.next_none, if_neg (Nat.ne_of_lt h.party)]
  all_goals rfl

lemma outline_spawn_of (h : e.Orderly fifo busy) (k : Nat) (hw : w.frame? = none) :
    (e.spawn k w).outline = e.outline.spawn w.duty := by
  rw [outline_spawn h, hw, Option.map_none, Option.toList_none, List.append_nil]
  rfl

/-- Changes that leave works and cancellations alone may only end the wait for a task. -/
lemma outline_map (hid : ∀ t, (f t).id = t.id) (hwork : ∀ t, (f t).work.duty = t.work.duty)
    (hframe : ∀ t, (f t).work.frame? = t.work.frame?)
    (hcancelled : ∀ t, (f t).cancelled = t.cancelled) (s : Schedule) :
    outline { e with tasks := e.tasks.map f, schedule := s } = { e.outline with
      awaited := (e.task? outside).bind fun t => (f t).wait.completion? } := by
  have htask : ∀ j, task? j { e with tasks := e.tasks.map f, schedule := s } = (e.task? j).map f :=
    find?_map_task hid e.tasks
  ext1
  case duty =>
    funext j
    simp only [outline, htask, Option.map_map, Function.comp_def, hwork]
  case cancelled =>
    funext j
    simp only [outline, htask, Option.any_map, hcancelled]
  case pending => exact pendingOf_map hid hframe e.tasks
  case awaited => simp only [outline, htask, Option.bind_map, Function.comp_def]
  all_goals rfl

lemma outline_wake (p : Task → Bool) : (e.wake p).outline = { e.outline with
    awaited := (e.task? outside).bind fun t => if p t then none else t.wait.completion? } := by
  have h : ∀ t : Task, (if p t then { t with wait := .turn } else t) =
      { t with wait := if p t then .turn else t.wait } := by
    intro t
    split_ifs
    · rfl
    · rfl
  have hwait : (fun t : Task => if p t then none else t.wait.completion?) =
      fun t => (if p t then .turn else t.wait : Wait).completion? := by
    funext t
    split_ifs
    · rfl
    · rfl
  simp only [wake, h]
  rw [hwait]
  exact outline_map (f := fun t => { t with wait := if p t then .turn else t.wait }) (fun _ => rfl)
    (fun _ => rfl) (fun _ => rfl) (fun _ => rfl) _

/-- The outline does not change when none of those that join the queue waited for an end. -/
lemma outline_wake_of (p : Task → Bool) (hp : ∀ t, p t = true → t.wait.completion? = none) :
    (e.wake p).outline = e.outline := by
  have h : (fun t : Task => if p t then none else t.wait.completion?) = (·.wait.completion?) := by
    funext t
    split_ifs with ht
    · exact (hp t ht).symm
    · rfl
  rw [outline_wake, h]
  rfl

lemma outline_finishTask (hi : i ≠ outside) : (e.finishTask i).outline = e.outline.leave i := by
  have htask : ∀ j, task? j { e with tasks := e.tasks.filter fun t => t.id != i } =
      if j = i then none else e.task? j := task?_filter i
  rw [finishTask, outline_wake]
  ext1
  case duty =>
    funext j
    simp only [outline, Outline.leave, htask, Function.update_apply]
    split_ifs
    · rfl
    · rfl
  case cancelled =>
    funext j
    simp only [outline, Outline.leave, htask, Function.update_apply]
    split_ifs
    · rfl
    · rfl
  case pending => exact pendingOf_filter i e.tasks
  case awaited =>
    have houtside := htask outside
    rw [if_neg (Ne.symm hi)] at houtside
    simp only [Outline.leave, outline, houtside]
    obtain h | ⟨t, h⟩ := Option.eq_none_or_eq_some (e.task? outside)
    · simp [h]
    · simp only [h, Option.bind_some, beq_iff_eq]
      cases hwait : t.wait with
      | completion k =>
        by_cases hk : k = i
        · simp [Wait.completion?, hk]
        · simp [Wait.completion?, hk]
      | _ => simp [Wait.completion?]
  all_goals rfl

/-- That a task other than the party outside joins the queue is not seen. -/
lemma outline_wake_task (hj : outside ≠ j) :
    (e.wake fun t => t.id == j && t.wait != .turn).outline = e.outline := by
  have hawaited : ((e.task? outside).bind fun t =>
      if (t.id == j && t.wait != .turn) = true then none else t.wait.completion?) =
        e.outline.awaited := by
    rw [outline_awaited]
    cases hparty : e.task? outside with
    | none => rfl
    | some p =>
      rw [Option.bind_some, Option.bind_some, if_neg fun hwakes => hj ?_]
      rw [← id_of_task? hparty]
      exact beq_iff_eq.1 (Bool.and_eq_true_iff.1 hwakes).1
  rw [outline_wake, hawaited]

lemma outline_cancel (hj : j ≠ outside) : (e.cancel j).outline = e.outline.cancel (some j) := by
  have htask : ∀ k, (e.cancel j).task? k = (e.task? k).map fun t =>
      if k = j then { t with cancelled := true, wait := .turn } else t := by
    intro k
    rw [cancel, task?_wake,
      task?_alterTask (f := fun t => { t with cancelled := true }) fun _ => rfl]
    cases ht : e.task? k with
    | none => simp
    | some t =>
      have hk := id_of_task? ht
      split_ifs with h
      · by_cases hwait : t.wait = .turn
        · simp [hwait]
        · simp [hk, h, hwait]
      · simp [hk, h]
  ext1
  case duty =>
    funext k
    simp only [outline, Outline.cancel, htask, Option.map_map]
    congr 1
    funext t
    rw [Function.comp_apply]
    split_ifs
    · rfl
    · rfl
  case cancelled =>
    funext k
    simp only [outline, Outline.cancel, htask, Option.any_map, Option.some.injEq]
    by_cases hk : k = j
    · cases ht : e.task? k with
      | none => simp [hk.symm]
      | some t => simp [hk]
    · rw [if_neg (Ne.symm hk)]
      simp [hk]
  case pending =>
    refine (pendingOf_map (fun t => ?_) (fun t => ?_) _).trans
      (pendingOf_map (fun t => ?_) (fun t => ?_) e.tasks)
    all_goals split_ifs
    · rfl
    · rfl
    · rfl
    · rfl
    · rfl
    · rfl
    · rfl
    · rfl
  case awaited =>
    simp only [outline, Outline.cancel, htask, if_neg (Ne.symm hj), Option.map_id']
  all_goals rfl

/-- The party outside waits. -/
lemma outline_alterOutside (hparty : e.outline.duty outside = some .party)
    (hpending : ∀ q ∈ e.outline.pending, q.1 ≠ outside) {c : Option TaskId}
    (hid : ∀ t, (f t).id = t.id) (hwork : ∀ t, (f t).work = .outside)
    (hwait : ∀ t, (f t).wait.completion? = c) (hcancelled : ∀ t, (f t).cancelled = t.cancelled) :
    (e.alterTask outside f).outline = { e.outline with awaited := c } := by
  have hlive : (e.task? outside).isSome = true := by
    have := congrArg Option.isSome hparty
    simpa [outline] using this
  obtain ⟨t, ht⟩ := Option.isSome_iff_exists.1 hlive
  ext1
  case duty =>
    funext j
    simp only [outline, task?_alterTask hid]
    split_ifs with hj
    · have := hparty
      rw [hj]
      simp only [outline, ht, Option.map_some] at this ⊢
      rw [hwork, this]
      rfl
    · rfl
  case cancelled =>
    funext j
    simp only [outline, task?_alterTask hid]
    split_ifs
    · simp [Option.any_map, hcancelled]
    · rfl
  case pending =>
    exact (pendingOf_alter (fun t => by rw [hwork]; rfl) outside e.tasks).trans
      (Outline.filter_pending hpending)
  case awaited =>
    simp only [outline, task?_alterTask hid, if_pos, ht, Option.map_some, Option.bind_some]
    exact hwait t
  all_goals rfl

end Engine

end FeedWatch
