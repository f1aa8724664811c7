import FeedWatch.Proofs.Engine.Works
import FeedWatch.Proofs.Watcher.Ground

/-!
# Frames in flight

A frame is in flight while its handling has begun and waits: for the label of an owner, for the
reply to an alert, or for the next attempt to post one.  Nothing that the engine does brings a frame
into flight but the turn in which handling the frame begins.  Main statements: what is done begins
no frames but those it may (`Works.calm`), and a turn in which no handling begins leaves in flight
only frames that were (`Calm.runTask`).
-/

namespace FeedWatch.Engine

/-- Tasks have numbers of their own, which were given out. -/
structure Listed (e : Engine) : Prop where
  unique : (e.tasks.map Task.id).Nodup
  below : ∀ t ∈ e.tasks, t.id < e.nextTask

/-- There is one task with a number. -/
lemma Listed.eq {e : Engine} {t t' : Task} (h : e.Listed) (ht : t ∈ e.tasks) (ht' : t' ∈ e.tasks)
    (hid : t.id = t'.id) : t = t' := List.inj_on_of_nodup_map h.unique ht ht' hid

/-- Tasks keep numbers of their own, and a frame that is in flight was so before, or is begun. -/
structure Calm (begun : TaskId → Nat → Prop) (e e' : Engine) : Prop where
  listed : e.Listed → e'.Listed
  flights : ∀ t' ∈ e'.tasks, t'.work.isInFlight = true →
    (∃ t ∈ e.tasks, t.id = t'.id ∧ t.station = t'.station ∧ t.work.isInFlight = true) ∨
      begun t'.id t'.station

variable {off : Nat → Prop} {begun : TaskId → Nat → Prop} {e e' e'' : Engine}

namespace Calm

lemma trans (h : Calm begun e e') (h' : Calm begun e' e'') : Calm begun e e'' := by
  refine ⟨fun hlisted => h'.listed (h.listed hlisted), fun t'' ht'' hflight => ?_⟩
  obtain ⟨t', ht', hid', hstation', hflight'⟩ | hbegun := h'.flights t'' ht'' hflight
  · obtain ⟨t, ht, hid, hstation, hflight''⟩ | hbegun := h.flights t' ht' hflight'
    · exact .inl ⟨t, ht, hid.trans hid', hstation.trans hstation', hflight''⟩
    · exact .inr (hid' ▸ hstation' ▸ hbegun)
  · exact .inr hbegun

/-- Of the tasks, some are left. -/
lemma of_sublist (htasks : e'.tasks.Sublist e.tasks) (hnext : e'.nextTask = e.nextTask) :
    Calm begun e e' := by
  refine ⟨fun h => ⟨h.unique.sublist (htasks.map _), fun t ht => ?_⟩, fun t ht hflight => ?_⟩
  · rw [hnext]
    exact h.below t (htasks.subset ht)
  · exact .inl ⟨t, htasks.subset ht, rfl, rfl, hflight⟩

lemma same (htasks : e'.tasks = e.tasks) (hnext : e'.nextTask = e.nextTask) : Calm begun e e' :=
  of_sublist (htasks ▸ .refl _) hnext

end Calm

/-! ## One act -/

lemma calm_map {f : Task → Task} (hid : ∀ t ∈ e.tasks, (f t).id = t.id)
    (hstation : ∀ t ∈ e.tasks, (f t).station = t.station)
    (hflight : ∀ t ∈ e.tasks, (f t).work.isInFlight = true →
      t.work.isInFlight = true ∨ begun t.id t.station) :
    Calm begun e { e with tasks := e.tasks.map f } := by
  refine ⟨fun h => ⟨?_, fun t' ht' => ?_⟩, fun t' ht' hf => ?_⟩
  · exact (map_ids hid).symm ▸ h.unique
  · obtain ⟨t, ht, rfl⟩ := List.mem_map.1 ht'
    rw [hid t ht]
    exact h.below t ht
  · obtain ⟨t, ht, rfl⟩ := List.mem_map.1 ht'
    rw [hid t ht, hstation t ht]
    exact (hflight t ht hf).imp_left fun hflight' => ⟨t, ht, rfl, rfl, hflight'⟩

lemma calm_alterTask (i : TaskId) {f : Task → Task} (hid : ∀ t, (f t).id = t.id)
    (hstation : ∀ t, (f t).station = t.station)
    (hflight : ∀ t ∈ e.tasks, t.id = i → (f t).work.isInFlight = true →
      t.work.isInFlight = true ∨ begun t.id t.station) :
    Calm begun e (e.alterTask i f) := by
  refine calm_map (fun t _ => ?_) (fun t _ => ?_) fun t ht hf => ?_
  · split_ifs
    · exact hid t
    · rfl
  · split_ifs
    · exact hstation t
    · rfl
  · split_ifs at hf with hi
    · exact hflight t ht hi hf
    · exact .inl hf

lemma calm_spawn (k : Nat) {w : Work} (hw : w.isInFlight = false) (e : Engine) :
    Calm begun e (e.spawn k w) := by
  refine ⟨fun h => ⟨?_, fun t ht => ?_⟩, fun t ht hflight => ?_⟩
  · show ((e.tasks ++ [_]).map Task.id).Nodup
    rw [List.map_append, List.map_singleton]
    refine List.Nodup.append h.unique (List.nodup_singleton _) ?_
    rw [List.disjoint_singleton]
    intro hmem
    obtain ⟨t, ht, hid⟩ := List.mem_map.1 hmem
    exact Nat.lt_irrefl _ (hid ▸ h.below t ht)
  · show t.id < e.nextTask + 1
    obtain ht | ht := List.mem_append.1 ht
    · exact Nat.lt_succ_of_lt (h.below t ht)
    · rw [List.mem_singleton.1 ht]
      exact Nat.lt_succ_self _
  · obtain ht | ht := List.mem_append.1 ht
    · exact .inl ⟨t, ht, rfl, rfl, hflight⟩
    · rw [List.mem_singleton.1 ht] at hflight
      exact absurd hflight (Bool.eq_false_iff.1 hw)

/-- A task waits for a time, and is begun if it is in flight then. -/
lemma calm_awaitTime (i : TaskId) (w : Work) (delay : Binary64)
    (hbegun : w.isInFlight = true → ∀ t ∈ e.tasks, t.id = i → begun i t.station) :
    Calm begun e (e.awaitTime i w delay) := by
  have hflight : ∀ t ∈ e.tasks, t.id = i → w.isInFlight = true →
      t.work.isInFlight = true ∨ begun t.id t.station :=
    fun t ht hid hw => .inr (hid ▸ hbegun hw t ht hid)
  rw [awaitTime]
  split_ifs
  · exact (calm_alterTask i (f := fun t => { t with work := w, wait := .turn })
      (fun _ => rfl) (fun _ => rfl) hflight).trans (.same rfl rfl)
  · exact (calm_alterTask i (f := fun t => { t with
      work := w, wait := .timer e.schedule.nextTimer, timer := some e.schedule.nextTimer })
      (fun _ => rfl) (fun _ => rfl) hflight).trans (.same rfl rfl)

lemma calm_wake (p : Task → Bool) (e : Engine) : Calm begun e (e.wake p) := by
  refine (calm_map (f := fun t => if p t then { t with wait := .turn } else t)
    (fun t _ => ?_) (fun t _ => ?_) fun t _ hf => ?_).trans (.same rfl rfl)
  · split_ifs
    · rfl
    · rfl
  · split_ifs
    · rfl
    · rfl
  · split_ifs at hf
    · exact .inl hf
    · exact .inl hf

lemma Act.calm (h : Act off begun e e') : Calm begun e e' := by
  cases h with
  | rest htasks _ hnext _ => exact .same htasks hnext
  | enqueue c _ => exact .same rfl rfl
  | spawn k w hw => exact calm_spawn k hw e
  | map f hf =>
    exact calm_map (fun t ht => (hf t ht).id) (fun t ht => (hf t ht).station)
      fun t ht => (hf t ht).flight
  | wake p => exact calm_wake p e
  | awaitTime i w delay hw => exact calm_awaitTime i w delay hw
  | leave i => exact .of_sublist List.filter_sublist rfl
  | callOff n _ => exact .same rfl rfl

/-! ## All that is done -/

/-- What is done brings no frame into flight but those it may begin. -/
lemma Works.calm (h : Works (fun _ => True) begun e e') : Calm begun e e' := by
  induction h with
  | refl => exact .same rfl rfl
  | tail _ hact hcalm => exact hcalm.trans hact.calm

/-- A turn in which no frame is handled brings no frame into flight. -/
lemma Calm.runTask {t : Task} (e : Engine)
    (hwork : t.cancelled = false → t.work.isInFlight = false ∧ t.work.frame? = none) :
    Calm begun e (e.runTask t) := by
  refine (Works.runTask (fun _ _ _ => trivial) (fun hgoing hhandles => ?_) e).calm
  obtain ⟨hresume, hreceive⟩ := hwork hgoing
  rw [hresume, hreceive] at hhandles
  exact absurd hhandles (by rintro (⟨⟨⟩⟩ | ⟨⟨⟩⟩))

end FeedWatch.Engine
