import FeedWatch.Proofs.Listener.Dismissal
import FeedWatch.Proofs.Watcher.Focus

/-!
# A watch from its start to its end
-/

namespace FeedWatch.Engine

variable {n m : Nat} {μ ρ : Option TaskId} {i r : TaskId} {e e' : Engine} {t : Task}
variable {schedule : Schedule}

/-! ## Calls in focus -/

@[simp]
lemma turns_focus (n m : Nat) (μ : Option TaskId) (e : Engine) :
    turnsOf (e.focus n m μ).schedule.queue = turnsOf e.schedule.queue := by
  show ((e.schedule.queue.map (Call.inFocus n)).filterMap Call.turn?) = _
  rw [List.filterMap_map]
  refine List.filterMap_congr fun c _ => ?_
  cases c with
  | _ => rfl

/-- The slot of the heartbeat does not hold the look at the settings file. -/
lemma Tended.clear (h : Tended ρ (e.focus n m μ)) (hμ : ∀ r, μ = some r → ρ = some r) :
    e.Clear n μ := by
  refine ⟨fun r hr => h.crew.begun r (hμ r hr), fun r hr hbeat => ?_⟩
  by_contra hlive
  rw [← isLive_focus (n := n) (m := m) (ρ := μ), Bool.not_eq_false] at hlive
  obtain ⟨t, ht, rfl⟩ := exists_mem_of_isLive hlive
  have hduty := h.rest.orderly.duty_of_mem ht
  have hfits := h.crew.fits t ht
  rw [hμ t.id hr] at hfits
  rw [← listener_focus (m := m) (ρ := μ)] at hbeat
  have hbeats := h.rest.sound.slots.beats t.id _ hbeat hduty
  refine hfits.ne (fun hidle => ?_) (fun hrefresh => ?_) rfl
  · rw [hidle] at hbeats
    cases hbeats
  · rw [hrefresh] at hbeats
    cases hbeats

/-- The task whose turn comes first. -/
lemma Tended.first (h : Tended ρ (e.focus n m μ))
    (hqueue : e.schedule.queue = .turn i :: schedule.queue) :
    ∃ t ∈ e.tasks, e.task? i = some t ∧ t.id = i ∧ t.wait = .turn ∧
      (t.station = n ∨ t.work = .outside) ∧ (t.work = .outside → i = outside) := by
  have hqueue' : (e.focus n m μ).schedule.queue = .turn i :: (schedule.inFocus n).queue := by
    show e.schedule.queue.map (Call.inFocus n) = _
    rw [hqueue]
    rfl
  obtain ⟨t', ht', hid, hwait⟩ := h.rest.head hqueue' rfl
  have hfound := h.rest.orderly.task?_of_mem ht'
  rw [hid, inFocus_task?] at hfound
  obtain ⟨t, htask, rfl⟩ := Option.map_eq_some_iff.1 hfound
  have hduty := h.rest.orderly.duty_of_mem ht'
  refine ⟨t, mem_of_task? htask, htask, hid, hwait, ?_, fun hwork => ?_⟩
  · have hhome : (if t.id = outside ∨ t.station = n then 0 else 1) = 0 := h.rest.orderly.home _ ht'
    split_ifs at hhome with hat
    obtain hparty | hstation := hat
    · right
      rw [show (t.inFocus n μ).id = t.id from rfl, hparty, h.rest.sound.slots.party] at hduty
      have hwork : (t.inFocus n μ).work.duty = .party := (Option.some.inj hduty).symm
      cases hw : t.work with
      | outside => rfl
      | _ =>
        rw [show (t.inFocus n μ).work = t.work from rfl, hw] at hwork
        cases hwork
    · exact .inl hstation
  · rw [← hid]
    refine h.rest.sound.slots.parties _ ?_
    rw [hduty, show (t.inFocus n μ).work = t.work from rfl, hwork]
    rfl

/-- A call is the same one in focus, unless the look at the settings file ends that is not seen to
be cancelled, or the party outside learns of that end. -/
lemma InOrder.inFocus (hcall : InOrder e e') (h : Tended ρ (e.focus n m μ))
    (hm : m ≤ e.feed.read.length) (hμ : ∀ r, μ = some r → ρ = some r)
    (hplain : ∀ (t : Task) (s : Schedule), e.schedule.queue = .turn t.id :: s.queue →
      e.task? t.id = some t → e' = make (.turn t.id) { e with schedule := s } →
        μ ≠ some t.id ∧ (t.work = .outside → μ = none ∧ e.stopping ≠ some .refresher)) :
    InOrder (e.focus n m μ) (e'.focus n m μ) := by
  have hstation := h.rest.orderly.station
  cases hcall with
  | due alarms s hqueue =>
    refine .due alarms (s.inFocus n) ?_
    show s.queue.map (Call.inFocus n) = e.schedule.queue.map (Call.inFocus n) ++ _
    rw [hqueue, List.map_append, List.map_map]
    rfl
  | call c s hqueue =>
    have hfirst : (e.focus n m μ).schedule.queue = c.inFocus n :: (s.inFocus n).queue := by
      show e.schedule.queue.map (Call.inFocus n) = _
      rw [hqueue]
      rfl
    have hmake : focus n m μ (make c { e with schedule := s }) =
        make (c.inFocus n) (focus n m μ { e with schedule := s }) := by
      cases c with
      | turn i =>
        obtain ⟨t, -, htask, rfl, -, hhome, -⟩ := h.first hqueue
        obtain ⟨hne, hparty⟩ := hplain t s hqueue htask rfl
        have htask₀ : task? t.id { e with schedule := s } = some t := htask
        have htask₁ : (focus n m μ { e with schedule := s }).task? t.id =
            some (t.inFocus n μ) := by
          rw [inFocus_task?, htask₀, Option.map_some]
        rw [make, Call.inFocus_turn, make]
        simp only [htask₀, htask₁]
        have hclear : Clear n μ { e with schedule := s } := by
          obtain ⟨hbegun, hbeat⟩ := h.clear hμ
          exact ⟨hbegun, hbeat⟩
        refine focus_runTask (e := { e with schedule := s }) hstation hclear hm hhome
          (fun hid => absurd hid hne) fun hwork st hst => ?_
        obtain ⟨hnone, hrefresher⟩ := hparty hwork
        refine ⟨fun r hr => ?_, fun hst' => hrefresher ?_⟩
        · cases hnone.symm.trans hr
        · rw [← hst']
          exact hst
      | alarm a => exact focus_goOff a
      | settled k i => exact focus_settled (e := { e with schedule := s }) hstation k i
      | gathered i => exact focus_gathered i
    rw [hmake]
    exact .call _ _ hfirst

/-! ## What calls keep -/

/-- A call leaves alone what the party outside steers, unless it is the turn of that party. -/
lemma InOrder.steers (hcall : InOrder e e') : e'.helm = e.helm ∨ ∃ (s : Schedule) (t : Task),
    e.schedule.queue = .turn t.id :: s.queue ∧ e.task? t.id = some t ∧ t.work = .outside ∧
      e' = make (.turn t.id) { e with schedule := s } ∧
        e' = wakeOutside { e with schedule := s } := by
  cases hcall with
  | due alarms s hqueue => exact .inl rfl
  | call c s hqueue =>
    cases c with
    | turn i =>
      cases htask : task? i { e with schedule := s } with
      | none =>
        rw [make, htask]
        exact .inl rfl
      | some t =>
        obtain rfl : t.id = i := id_of_task? htask
        have hmake : make (.turn t.id) { e with schedule := s } =
            runTask t { e with schedule := s } := by
          rw [make]
          simp only [htask]
        by_cases hwork : t.cancelled = false ∧ t.work = .outside
        · exact .inr ⟨s, t, hqueue, htask, hwork.2, rfl,
            hmake.trans (runTask_outside hwork.1 hwork.2)⟩
        · rw [hmake]
          exact .inl (helm_runTask fun hgoing hout => hwork ⟨hgoing, hout⟩)
    | alarm a =>
      left
      cases a with
      | _ => rfl
    | settled k i => exact .inl (helm_of_base (base_settled k i _))
    | gathered i => exact .inl rfl

/-- A call takes nothing back: what was read stays read, and a cancelled task stays cancelled until
it ends. -/
lemma InOrder.lasting (hcall : InOrder e e') : e.feed.read <+: e'.feed.read ∧
    ∀ t' ∈ e'.tasks, t'.id < e.nextTask →
      ∃ t ∈ e.tasks, t.id = t'.id ∧ (t.cancelled = true → t'.cancelled = true) := by
  cases hcall with
  | due alarms s hqueue => exact ⟨List.prefix_rfl, fun t ht _ => ⟨t, ht, rfl, id⟩⟩
  | call c s hqueue =>
    have htouches := touches_make c { e with schedule := s }
    exact ⟨htouches.read, htouches.ends⟩

/-- A task that is ahead of the party outside stays there until its turn is taken. -/
lemma Ahead.inOrder (h : e.Ahead r) (hcall : InOrder e e')
    (hother : ∀ s : Schedule, e.schedule.queue = .turn r :: s.queue →
      e' ≠ make (.turn r) { e with schedule := s }) : e'.Ahead r := by
  cases hcall with
  | due alarms s hqueue =>
    refine h.mono ?_
    rw [hqueue, turnsOf_append]
    exact List.prefix_append _ _
  | call c s hqueue =>
    have htail : Ahead r { e with schedule := s } := by
      cases hc : c.turn? with
      | none =>
        refine h.mono ?_
        rw [hqueue, turnsOf, List.filterMap_cons_none hc]
        exact List.prefix_rfl
      | some i =>
        obtain rfl : c = .turn i := by
          cases c with
          | turn j => exact congrArg Call.turn (Option.some.inj hc)
          | _ => cases hc
        refine h.tail (fun hid => ?_) hqueue
        subst hid
        exact hother s hqueue rfl
    exact htail.mono (touches_make c { e with schedule := s }).turns

/-! ## Past the look at the settings file -/

/-- The look at the settings file is over or let go of, and stopping has come further. -/
structure Passed (held : Option TaskId) (e : Engine) : Prop where
  refresher : e.refresher = held
  stopping : e.stopping ≠ some .refresher

namespace Passed

variable {held : Option TaskId}

lemma endStop (h : e.refresher = held) (failure : Option Failure) :
    Passed held (e.endStop failure) := ⟨h, by rintro ⟨⟩⟩

lemma leaveSession (h : e.refresher = held) (k : Nat) : Passed held (e.leaveSession k) :=
  ⟨h, by rintro ⟨⟩⟩

lemma drain (h : e.refresher = held) (k : Nat) : Passed held (e.drain k) := by
  rw [Engine.drain]
  dsimp only
  split_ifs
  · exact .leaveSession h k
  · rw [foldl_enqueue]
    exact ⟨h, by rintro ⟨⟩⟩

lemma socketClosed (h : e.refresher = held) (k : Nat) (failure : Option Failure) :
    Passed held (e.socketClosed k failure) := by
  rw [Engine.socketClosed.eq_def]
  split
  · exact .endStop h _
  · exact .drain (e := e.alterListener k _) h k

lemma closeSocket (h : e.refresher = held) (k : Nat) : Passed held (e.closeSocket k) := by
  rw [Engine.closeSocket.eq_def]
  split
  · exact .drain h k
  · dsimp only
    split_ifs
    · exact .socketClosed (e := { e with feed := (e.feed.close _).1 }) h k _
    · refine ⟨?_, by rintro ⟨⟩⟩
      exact (congrArg Helm.refresher (helm_of_base (base_awaitTime _ _ _ _))).trans h

lemma cancelNext (h : e.refresher = held) (k : Nat) (ids : List TaskId) :
    Passed held (e.cancelNext k ids) := by
  induction ids with
  | nil => exact .closeSocket (e := e.alterListener k _) h k
  | cons i ids ih =>
    rw [Engine.cancelNext]
    split_ifs
    · exact ⟨h, by rintro ⟨⟩⟩
    · exact ih

lemma stopListening (h : e.refresher = held) (k : Nat) : Passed held (e.stopListening k) := by
  rw [Engine.stopListening]
  split_ifs
  · exact .cancelNext (e := e.alterListener k _) h k _
  · exact .endStop h none

/-- The party outside wakes up, or goes on with stopping. -/
lemma wakeOutside (h : Passed held e) : Passed held e.wakeOutside := by
  rw [Engine.wakeOutside.eq_def]
  dsimp only
  split
  · rename_i hst
    refine ⟨h.refresher, ?_⟩
    rw [hst]
    rintro ⟨⟩
  · rename_i hst
    exact absurd hst h.stopping
  · exact .cancelNext h.refresher _ _
  · exact .socketClosed h.refresher _ _
  · exact .leaveSession h.refresher _

end Passed

/-! ## The stages of a watch -/

/-- The watcher is on the watch: the listener of station `n` runs, before whose start `m` arrivals
were read, and so does the look at the settings file. -/
structure Watching (n m : Nat) (e : Engine) : Prop where
  read : m ≤ e.feed.read.length
  stopping : e.stopping = none
  tended : ∃ r, e.refresher = some r ∧ Tended (some r) (e.focus n m none)

/-- The look at the settings file was cancelled, whose end the party outside awaits. -/
structure Dismissing (n m : Nat) (e : Engine) : Prop where
  read : m ≤ e.feed.read.length
  stopping : e.stopping = some .refresher
  asleep : e.isAwake = false
  tended : ∃ r, Tended (some r) (e.focus n m (some r)) ∧ e.Ahead r ∧
    ∀ t ∈ e.tasks, t.id = r → t.cancelled = true

/-- The look at the settings file has ended, and the party outside is about to go on. -/
structure Dismissed (n m : Nat) (e : Engine) : Prop where
  read : m ≤ e.feed.read.length
  stopping : e.stopping = some .refresher
  asleep : e.isAwake = false
  tended : Tended none (e.focus n m none)

/-- The listener is being stopped, or was. -/
structure Stopped (n m : Nat) (e : Engine) : Prop where
  read : m ≤ e.feed.read.length
  passed : Passed none e
  stopped : (e.listener n).running = false
  tended : Tended none (e.focus n m none)

/-- The watch ends. -/
def Ending (n m : Nat) (e : Engine) : Prop :=
  Dismissing n m e ∨ Dismissed n m e ∨ Stopped n m e

lemma inFocus_unmasked (h : μ = some t.id → t.cancelled = false) :
    t.inFocus n μ = t.inFocus n none := by
  have hcancelled : (t.inFocus n μ).cancelled = (t.inFocus n none).cancelled := by
    rw [inFocus_cancelled h, inFocus_cancelled (by rintro ⟨⟩)]
  exact congrArg (fun cancelled => { t.inFocus n none with cancelled }) hcancelled

/-- What is cancelled is seen, unless it is not to be. -/
lemma focus_unmasked (h : ∀ t ∈ e.tasks, μ = some t.id → t.cancelled = false) :
    e.focus n m μ = e.focus n m none := by
  have htasks : e.tasks.map (Task.inFocus n μ) = e.tasks.map (Task.inFocus n none) :=
    List.map_congr_left fun t ht => inFocus_unmasked (h t ht)
  rw [focus, htasks]
  rfl

/-- The party outside goes on when its turn comes first. -/
lemma Tended.outside_first {s : Schedule} (h : Tended ρ (e.focus n m μ))
    (hqueue : e.schedule.queue = .turn t.id :: s.queue) (htask : e.task? t.id = some t)
    (hwork : t.work = .outside) : t.id = outside := by
  obtain ⟨t', -, htask', -, -, -, hout⟩ := h.first hqueue
  obtain rfl : t = t' := Option.some.inj (htask.symm.trans htask')
  exact hout hwork

lemma Watching.call (h : Watching n m e) (hcall : InOrder e e') : Watching n m e' := by
  obtain ⟨r, hr, htended⟩ := h.tended
  have hfocus : InOrder (e.focus n m none) (e'.focus n m none) := by
    refine hcall.inFocus htended h.read (by rintro r ⟨⟩) fun t s _ _ _ =>
      ⟨by rintro ⟨⟩, fun _ => ?_⟩
    rw [h.stopping]
    exact ⟨rfl, by rintro ⟨⟩⟩
  have hread := h.read.trans hcall.lasting.1.length_le
  obtain hhelm | ⟨s, t, -, -, -, -, rfl⟩ := hcall.steers
  · exact ⟨hread, (congrArg Helm.stopping hhelm).trans h.stopping,
      r, (congrArg Helm.refresher hhelm).trans hr, htended.call hfocus⟩
  · have hstopping : ({ e with schedule := s } : Engine).stopping = none := h.stopping
    rw [wakeOutside_awake hstopping] at hfocus hread ⊢
    exact ⟨hread, h.stopping, r, hr, htended.call hfocus⟩

/-- The look at the settings file takes its turn to end. -/
lemma Dismissing.retire {s : Schedule} (h : Dismissing n m e)
    (htended : Tended (some r) (e.focus n m (some r)))
    (hqueue : e.schedule.queue = .turn r :: s.queue)
    (hcancelled : ∀ t ∈ e.tasks, t.id = r → t.cancelled = true) :
    Dismissed n m (make (.turn r) { e with schedule := s }) := by
  obtain ⟨t, ht, htask, rfl, hwait, -⟩ := htended.first hqueue
  have htaken : make (.turn t.id) { e with schedule := s } =
      endCancelled t { e with schedule := s } := by
    have htask₀ : task? t.id { e with schedule := s } = some t := htask
    have hvigil : t.work ≠ .vigil := by
      intro hwork
      have hfits := htended.crew.fits _ (List.mem_map_of_mem ht)
      rw [show (t.inFocus n (some t.id)).work = t.work from rfl, hwork] at hfits
      exact hfits
    rw [make]
    simp only [htask₀]
    rw [runTask, if_pos (hcancelled t ht rfl)]
    split
    · rename_i hwork
      exact absurd hwork hvigil
    · rfl
  have hhelm : (endCancelled t { e with schedule := s }).helm = e.helm :=
    helm_of_base (base_endCancelled t _)
  have hqueue' : (e.focus n m (some t.id)).schedule.queue =
      .turn (t.inFocus n (some t.id)).id :: (s.inFocus n).queue := by
    show e.schedule.queue.map (Call.inFocus n) = _
    rw [hqueue]
    rfl
  have hretired := Tended.retire (t := t.inFocus n (some t.id)) htended hqueue'
    (List.mem_map_of_mem ht) hwait
  have hfocus : endCancelled (t.inFocus n (some t.id))
      { e.focus n m (some t.id) with schedule := s.inFocus n } =
      (endCancelled t { e with schedule := s }).focus n m none := by
    rw [← focus_unmasked fun t' ht' hid => ?_, focus_endCancelled]
    · rfl
    · rw [tasks_endCancelled] at ht'
      obtain ⟨-, -, -, -, hne⟩ := mem_finishTask ht'
      exact absurd (Option.some.inj hid).symm hne
  rw [htaken]
  have htouched := (Works.endCancelled t (fun _ => id) { e with schedule := s }).touched
  exact ⟨h.read.trans htouched.read.length_le,
    (congrArg Helm.stopping hhelm).trans h.stopping,
    (congrArg Helm.isAwake hhelm).trans h.asleep, hfocus ▸ hretired⟩

lemma Dismissing.call (h : Dismissing n m e) (hcall : InOrder e e') : Ending n m e' := by
  obtain ⟨r, htended, hahead, hcancelled⟩ := h.tended
  have hread := h.read.trans hcall.lasting.1.length_le
  -- the party outside stands behind the task that ends
  have hbehind : ∀ s : Schedule, e.schedule.queue ≠ .turn outside :: s.queue := by
    intro s hqueue
    have hqueue' : (e.focus n m (some r)).schedule.queue =
        .turn outside :: (s.inFocus n).queue := by
      show e.schedule.queue.map (Call.inFocus n) = _
      rw [hqueue]
      rfl
    have hprecedes : Precedes r outside (e.focus n m (some r)) := by
      rw [Precedes, turns_focus]
      refine hahead.2 ?_
      rw [hqueue]
      exact List.mem_cons_self
    exact htended.rest.not_precedes hqueue' (fun hid => htended.ne_outside (congrArg some hid))
      hprecedes
  by_cases hturn : ∃ s : Schedule, e.schedule.queue = .turn r :: s.queue ∧
      e' = make (.turn r) { e with schedule := s }
  · obtain ⟨s, hqueue, rfl⟩ := hturn
    exact .inr (.inl (h.retire htended hqueue hcancelled))
  · left
    have hfocus : InOrder (e.focus n m (some r)) (e'.focus n m (some r)) := by
      refine hcall.inFocus htended h.read (fun _ => id)
        fun t s hqueue htask hmake => ⟨?_, fun hwork => ?_⟩
      · intro hid
        cases hid
        exact hturn ⟨s, hqueue, hmake⟩
      · exact absurd (htended.outside_first hqueue htask hwork ▸ hqueue) (hbehind s)
    obtain hhelm | ⟨s, t, hqueue, htask, hwork, -, -⟩ := hcall.steers
    · refine ⟨hread, (congrArg Helm.stopping hhelm).trans h.stopping,
        (congrArg Helm.isAwake hhelm).trans h.asleep, r, htended.call hfocus,
        hahead.inOrder hcall fun s hqueue hmake => hturn ⟨s, hqueue, hmake⟩, fun t' ht' hid => ?_⟩
      have hlt : t'.id < e.nextTask := hid ▸ htended.crew.begun r rfl
      obtain ⟨t, ht, hsame, hstays⟩ := hcall.lasting.2 t' ht' hlt
      exact hstays (hcancelled t ht (hsame.trans hid))
    · exact absurd (htended.outside_first hqueue htask hwork ▸ hqueue) (hbehind s)

/-- The party outside is never cancelled. -/
lemma Tended.outside_going {s : Schedule} (h : Tended ρ (e.focus n m none))
    (hqueue : e.schedule.queue = .turn t.id :: s.queue) (htask : e.task? t.id = some t)
    (hwork : t.work = .outside) : (t.inFocus n none).cancelled = false := by
  have hid := h.outside_first hqueue htask hwork
  refine Bool.eq_false_iff.2 fun hcancelled => ?_
  exact h.rest.ne_outside (List.mem_map_of_mem (mem_of_task? htask)) hcancelled hid

lemma Tended.make_outside {s : Schedule} (h : Tended ρ (e.focus n m none))
    (hqueue : e.schedule.queue = .turn t.id :: s.queue) (htask : e.task? t.id = some t)
    (hwork : t.work = .outside) :
    make (.turn t.id) { e with schedule := s } = wakeOutside { e with schedule := s } := by
  have hgoing : t.cancelled = false := by
    rw [← inFocus_cancelled (n := n) (ρ := none) (by rintro ⟨⟩)]
    exact h.outside_going hqueue htask hwork
  have htask₀ : task? t.id { e with schedule := s } = some t := htask
  rw [make]
  simp only [htask₀]
  exact runTask_outside hgoing hwork

/-- Stopping the listener begins, for which it does not matter whether the party outside woke up. -/
lemma Stopped.begin (hread : m ≤ e.feed.read.length)
    (htended : Tended none { e.focus n m none with isAwake := true }) :
    Stopped n m (stopListening n { e with refresher := none }) := by
  have hfocus : focus n m none (stopListening n { e with refresher := none }) =
      stopListening 0 { e.focus n m none with isAwake := true } := by
    rw [focus_stopListening (by rintro r ⟨⟩)]
    exact (stopListening_awake 0 true (e.focus n m none)).symm
  have htouches : Touched (fun _ => False) { e with refresher := none } _ :=
    (Works.stopListening n _).touched
  refine ⟨hread.trans htouches.read.length_le,
    .stopListening (e := { e with refresher := none }) rfl n, ?_, ?_⟩
  · rw [← listener_focus (m := m) (ρ := none), hfocus]
    exact stopped_stopListening htended.rest.orderly.station
  · rw [hfocus]
    exact htended.stopListening rfl

lemma Tended.newest (h : Tended ρ (e.focus n m μ)) : e.stations.length = n + 1 := by
  obtain ⟨st, hst⟩ := h.rest.orderly.station
  exact (newest?_of_focus hst).2.2

/-- The party outside learns that the look at the settings file has ended, and stops the
listener. -/
lemma Dismissed.proceed {s : Schedule} (h : Dismissed n m e)
    (hqueue : e.schedule.queue = .turn t.id :: s.queue) (htask : e.task? t.id = some t)
    (hwork : t.work = .outside) : Stopped n m (wakeOutside { e with schedule := s }) := by
  have hwake : wakeOutside { e with schedule := s } =
      stopListening n { e with schedule := s, refresher := none } := by
    have hlast : e.stations.length - 1 = n := by rw [h.tended.newest, Nat.add_sub_cancel]
    rw [wakeOutside.eq_def]
    simp only [h.stopping, hlast]
  have hqueue' : (e.focus n m none).schedule.queue =
      .turn (t.inFocus n none).id :: (s.inFocus n).queue := by
    show e.schedule.queue.map (Call.inFocus n) = _
    rw [hqueue]
    rfl
  have hnone : (e.focus n m none).stopping = none := by
    show Stopping.inFocus e.stopping = none
    rw [h.stopping]
    rfl
  obtain ⟨t', -, htask', -, hwait, -⟩ := h.tended.first hqueue
  obtain rfl : t = t' := Option.some.inj (htask.symm.trans htask')
  have hturn := h.tended.turn hqueue' (List.mem_map_of_mem (mem_of_task? htask)) hwait
  rw [runTask_outside (h.tended.outside_going hqueue htask hwork) hwork,
    wakeOutside_awake (e := { e.focus n m none with schedule := s.inFocus n }) hnone] at hturn
  rw [hwake]
  exact .begin (e := { e with schedule := s }) h.read hturn

lemma Dismissed.call (h : Dismissed n m e) (hcall : InOrder e e') : Ending n m e' := by
  by_cases hturn : ∃ (s : Schedule) (t : Task), e.schedule.queue = .turn t.id :: s.queue ∧
      e.task? t.id = some t ∧ t.work = .outside ∧ e' = make (.turn t.id) { e with schedule := s }
  · obtain ⟨s, t, hqueue, htask, hwork, rfl⟩ := hturn
    rw [h.tended.make_outside hqueue htask hwork]
    exact .inr (.inr (h.proceed hqueue htask hwork))
  · have hfocus : InOrder (e.focus n m none) (e'.focus n m none) :=
      hcall.inFocus h.tended h.read (by rintro r ⟨⟩) fun t s hqueue htask hmake =>
        ⟨by rintro ⟨⟩, fun hwork => absurd ⟨s, t, hqueue, htask, hwork, hmake⟩ hturn⟩
    obtain hhelm | ⟨s, t, hqueue, htask, hwork, hmake, -⟩ := hcall.steers
    · exact .inr (.inl ⟨h.read.trans hcall.lasting.1.length_le,
        (congrArg Helm.stopping hhelm).trans h.stopping,
        (congrArg Helm.isAwake hhelm).trans h.asleep, h.tended.call hfocus⟩)
    · exact absurd ⟨s, t, hqueue, htask, hwork, hmake⟩ hturn

lemma Stopped.call (h : Stopped n m e) (hcall : InOrder e e') : Stopped n m e' := by
  have hread := h.read.trans hcall.lasting.1.length_le
  have hfocus : InOrder (e.focus n m none) (e'.focus n m none) :=
    hcall.inFocus h.tended h.read (by rintro r ⟨⟩) fun t s _ _ _ =>
      ⟨by rintro ⟨⟩, fun _ => ⟨rfl, h.passed.stopping⟩⟩
  have hpassed : Passed none e' := by
    obtain hhelm | ⟨s, t, -, -, -, -, rfl⟩ := hcall.steers
    · refine ⟨(congrArg Helm.refresher hhelm).trans h.passed.refresher, fun hst => ?_⟩
      exact h.passed.stopping ((congrArg Helm.stopping hhelm).symm.trans hst)
    · exact Passed.wakeOutside (e := { e with schedule := s })
        ⟨h.passed.refresher, h.passed.stopping⟩
  refine ⟨hread, hpassed, ?_, h.tended.call hfocus⟩
  rw [← listener_focus (m := m) (ρ := none)]
  refine h.tended.stopped_call hfocus ?_
  rw [listener_focus]
  exact h.stopped

/-! ## The watch is ended -/

/-- Who is cancelled takes its turn. -/
lemma turn_of_cancel (ht : t ∈ (e.cancel r).tasks) (hid : t.id = r) :
    t.cancelled = true ∧ t.wait = .turn := by
  obtain ⟨t₁, ht₁, rfl⟩ := List.mem_map.1 ht
  obtain ⟨-, hother⟩ | ⟨t₀, -, -, rfl⟩ := mem_alterTask ht₁
  · split_ifs at hid
    · exact absurd hid hother
    · exact absurd hid hother
  · split_ifs at hid ⊢ with hwaits
    · exact ⟨rfl, rfl⟩
    · refine ⟨rfl, by_contra fun hturn => hwaits ?_⟩
      exact Bool.and_eq_true_iff.2 ⟨beq_iff_eq.2 hid, bne_iff_ne.2 hturn⟩

/-- Only the tasks of a connection and heartbeats are cancelled. -/
lemma Tended.aside_going (h : Tended ρ e) (ht : t ∈ e.tasks) (haside : t.work.duty = .aside) :
    t.cancelled = false := by
  refine Bool.eq_false_iff.2 fun hcancelled => ?_
  have hout : e.outline.cancelled t.id = true := by
    rw [outline_cancelled, h.rest.orderly.task?_of_mem ht]
    exact hcancelled
  have hcuts := h.rest.sound.slots.cancelled _ hout
  rw [h.rest.orderly.duty_of_mem ht, haside] at hcuts
  obtain hbeat | ⟨l, hlink⟩ := hcuts
  · cases hbeat
  · cases hlink

/-- That the look at the settings file is cancelled is not seen; it joins the queue. -/
lemma Tended.focus_dismiss (h : Tended (some r) (e.focus n m none))
    (hstopping : e.stopping = none) :
    focus n m (some r)
        { (e.cancel r).outsideAwaits (.completion r) with stopping := some .refresher } =
      ((e.focus n m none).wake fun t => t.id == r && t.wait != .turn).outsideAwaits
        (.completion r) := by
  -- it was not cancelled before
  have hgoing : ∀ t ∈ e.tasks, t.id = r → t.cancelled = false := by
    intro t ht hid
    have hmem : t.inFocus n none ∈ (e.focus n m none).tasks := List.mem_map_of_mem ht
    have hfits := h.crew.fits _ hmem
    rw [← inFocus_cancelled (n := n) (ρ := none) (by rintro ⟨⟩)]
    by_contra hcancelled
    refine hfits.ne (fun hidle => ?_) (fun hrefresh => ?_) (congrArg some hid.symm)
    · exact hcancelled (h.aside_going hmem (congrArg Work.duty hidle))
    · exact hcancelled (h.aside_going hmem (congrArg Work.duty hrefresh))
  have hcut : (e.alterTask r fun t => { t with cancelled := true }).focus n m (some r) =
      e.focus n m none := by
    have htasks : (e.tasks.map fun t => if t.id = r then { t with cancelled := true } else t).map
        (Task.inFocus n (some r)) = e.tasks.map (Task.inFocus n none) := by
      rw [List.map_map]
      refine List.map_congr_left fun t ht => ?_
      rw [Function.comp_apply]
      split_ifs with hid
      · have hcancelled := hgoing t ht hid
        simp [Task.inFocus, hid, hcancelled]
      · exact inFocus_unmasked fun heq => absurd (Option.some.inj heq).symm hid
    rw [alterTask, focus_tasks, htasks]
    rfl
  have hcancel : (e.cancel r).focus n m (some r) =
      (e.focus n m none).wake fun t => t.id == r && t.wait != .turn := by
    rw [cancel, focus_wake fun _ => rfl, hcut]
  have hstage : ((e.cancel r).outsideAwaits (.completion r)).stopping = none := hstopping
  have hseen : ∀ e₁ : Engine, e₁.stopping = none →
      focus n m (some r) { e₁ with stopping := some .refresher } = e₁.focus n m (some r) := by
    intro e₁ hnone
    rw [focus, focus, hnone]
    rfl
  rw [hseen _ hstage, focus_outsideAwaits, hcancel]

/-- The watch is ended: the look at the settings file is cancelled first, unless it is gone. -/
lemma Watching.stop (h : Watching n m e) (hawake : e.isAwake = true) :
    Ending n m (stopWatching { e with failure := none }) := by
  obtain ⟨r, hr, htended⟩ := h.tended
  have hlast : e.stations.length - 1 = n := by rw [htended.newest, Nat.add_sub_cancel]
  have hfailure : ({ e with failure := none } : Engine) = e := by
    have hnone : e.failure = none := htended.winding.failure
    rw [← hnone]
  rw [hfailure, stopWatching]
  simp only [hr]
  split_ifs with hlive
  · have hdismissed := htended.dismiss hawake
    rw [← htended.focus_dismiss h.stopping] at hdismissed
    have hline := hdismissed.rest.orderly.lined trivial
    have hne : r ≠ outside := fun hid => htended.ne_outside (congrArg some hid)
    have hfirst : ∀ t ∈ ((e.cancel r).outsideAwaits (.completion r)).tasks, t.id = r →
        t ∈ (e.cancel r).tasks := by
      intro t ht hid
      obtain ⟨hold, -⟩ | ⟨t₀, -, hparty, rfl⟩ := mem_alterTask ht
      · exact hold
      · exact absurd (hid.symm.trans hparty) hne
    refine .inl ⟨h.read, rfl, rfl, r, hdismissed, ⟨?_, fun hmem => ?_⟩, fun t ht hid =>
      (turn_of_cancel (hfirst t ht hid) hid).1⟩
    · obtain ⟨t, ht, hid⟩ : ∃ t ∈ ((e.cancel r).outsideAwaits (.completion r)).tasks, t.id = r := by
        obtain ⟨t, ht, hid⟩ := exists_mem_of_isLive hlive
        refine ⟨_, List.mem_map_of_mem (List.mem_map_of_mem (List.mem_map_of_mem ht)), ?_⟩
        split_ifs
        all_goals exact hid
      have hstands := hline.stands _ (List.mem_map_of_mem ht)
        (turn_of_cancel (hfirst t ht hid) hid).2
      rw [show (t.inFocus n (some r)).id = r from hid] at hstands
      rw [← turns_focus n m (some r)]
      exact hstands
    · -- the party outside awaits an end, so it does not stand in the queue
      rw [← turns_focus n m (some r)] at hmem
      obtain ⟨p', hp', hparty, hturn⟩ := hline.ready outside hmem
      obtain ⟨p, hp, rfl⟩ := List.mem_map.1 hp'
      obtain ⟨-, hother⟩ | ⟨p₀, -, -, rfl⟩ := mem_alterTask hp
      · exact absurd hparty hother
      · cases hturn
  · have hdone : ∀ t ∈ (e.focus n m none).tasks, t.id ≠ r := by
      intro t ht hid
      have hlive' := isLive_of_mem ht
      rw [hid, isLive_focus] at hlive'
      exact hlive hlive'
    rw [hlast]
    refine .inr (.inr (.begin h.read ?_))
    have hawake' : (e.focus n m none).isAwake = true := hawake
    rw [← hawake']
    exact htended.unwatched hdone

/-! ## What happens besides -/

/-- What happens to a watcher besides its starts and stops: calls are made, the party outside
sleeps, something arrives on the newest socket, the newest registry is worked with, the settings
file is looked at, and the world changes: the attempts to come, the replies of the network, and the
disk. -/
inductive Happens (e : Engine) : Engine → Prop
  | call {e' : Engine} (h : InOrder e e') : Happens e e'
  | sleep (delay : Binary64) (hawake : e.isAwake = true) :
    Happens e { e.awaitTime outside .outside delay with isAwake := false }
  | arrive (a : Arrival) : Happens e (e.arrive a)
  | operate {α : Type} {s : Station} (f : Session → Session × α)
    (hs : e.stations.getLast? = some s) : Happens e (e.operate (e.stations.length - 1) s f).1
  | look : Happens e e.refresh.1
  | world (feed : Feed) (network : Http.Network) (disk : Disk) (hurls : feed.urls = e.feed.urls)
    (hsent : feed.sockets.map Socket.sent = e.feed.sockets.map Socket.sent)
    (hclosings : feed.sockets.map Socket.closings = e.feed.sockets.map Socket.closings)
    (hread : feed.read = e.feed.read) (hmild : feed.ClosesMildly)
    (hlog : network.log = e.network.log) (hclosed : network.closed = e.network.closed) :
    Happens e { e with feed, network, disk }

/-- Something happens besides calls, starts and stops. -/
structure Besides (n : Nat) (e e' : Engine) : Prop where
  tended : ∀ m μ ρ, Tended ρ (e.focus n m μ) → Tended ρ (e'.focus n m μ)
  touched : Touched (fun _ => False) e e'
  helm : ∃ isAwake, e'.helm = { e.helm with isAwake }
  asleep : e.isAwake = false → e'.isAwake = false

lemma Happens.besides (h : Happens e e') (hnewest : e.stations.length = n + 1) :
    InOrder e e' ∨ Besides n e e' := by
  cases h with
  | call hcall => exact .inl hcall
  | sleep delay hawake =>
    refine .inr ⟨fun m μ ρ h => ?_, ?_, ⟨false, ?_⟩, fun _ => rfl⟩
    · rw [focus_sleep]
      exact h.sleep hawake delay
    · exact (Works.sleep delay e).touched
    · exact congrArg (fun h : Helm => { h with isAwake := false })
        (helm_of_base (base_awaitTime outside .outside delay e))
  | arrive a =>
    refine .inr ⟨fun m μ ρ h => ?_, (Works.arrive a e).touched, ⟨e.isAwake, rfl⟩, id⟩
    rw [focus_arrive]
    exact h.arrive a
  | @operate α s f hs =>
    rw [hnewest, Nat.add_sub_cancel]
    refine .inr ⟨fun m μ ρ h => ?_, (Works.operate n s f e).touched, ⟨e.isAwake, ?_⟩, id⟩
    · rw [focus_operate]
      exact h.operate s f
    · exact helm_keep n (f (e.session s)).1 e
  | look =>
    refine .inr ⟨fun m μ ρ h => ?_, (Works.refresh e).touched, ⟨e.isAwake, helm_refresh e⟩,
      fun hasleep => ?_⟩
    · rw [focus_refresh h.rest.orderly.station]
      exact h.refresh
    · exact (congrArg Helm.isAwake (helm_refresh e)).trans hasleep
  | world feed network disk hurls hsent hclosings hread hmild hlog hclosed =>
    refine .inr ⟨fun m μ ρ h => ?_, Works.touched (.same rfl rfl rfl hread), ⟨e.isAwake, rfl⟩, id⟩
    exact h.world (feed.since m) network disk hclosings (congrArg (List.drop m) hread)
      ⟨hmild.sockets, hmild.script⟩

namespace Besides

lemma running (h : Besides n e e') (k : Nat) :
    (e'.listener k).running = (e.listener k).running := by
  obtain ⟨_, hhelm⟩ := h.helm
  rw [running_eq, hhelm, running_eq]

lemma read (h : Besides n e e') (hread : m ≤ e.feed.read.length) : m ≤ e'.feed.read.length :=
  hread.trans h.touched.read.length_le

lemma stopping (h : Besides n e e') : e'.stopping = e.stopping := by
  obtain ⟨_, hhelm⟩ := h.helm
  exact congrArg Helm.stopping hhelm

lemma refresher (h : Besides n e e') : e'.refresher = e.refresher := by
  obtain ⟨_, hhelm⟩ := h.helm
  exact congrArg Helm.refresher hhelm

end Besides

lemma Watching.happen (h : Watching n m e) (hhappens : Happens e e') : Watching n m e' := by
  obtain ⟨r, hr, htended⟩ := h.tended
  obtain hcall | hbesides := hhappens.besides htended.newest
  · exact h.call hcall
  · exact ⟨hbesides.read h.read, hbesides.stopping.trans h.stopping,
      r, hbesides.refresher.trans hr, hbesides.tended m none _ htended⟩

lemma Dismissing.happen (h : Dismissing n m e) (hhappens : Happens e e') : Ending n m e' := by
  obtain ⟨r, htended, hahead, hcancelled⟩ := h.tended
  obtain hcall | hbesides := hhappens.besides htended.newest
  · exact h.call hcall
  · refine .inl ⟨hbesides.read h.read, hbesides.stopping.trans h.stopping,
      hbesides.asleep h.asleep, r, hbesides.tended m _ _ htended, hahead.mono hbesides.touched.turns,
      fun t' ht' hid => ?_⟩
    obtain ⟨t, ht, hsame, hstays⟩ :=
      hbesides.touched.ends t' ht' (hid ▸ htended.crew.begun r rfl)
    exact hstays (hcancelled t ht (hsame.trans hid))

lemma Dismissed.happen (h : Dismissed n m e) (hhappens : Happens e e') : Ending n m e' := by
  obtain hcall | hbesides := hhappens.besides h.tended.newest
  · exact h.call hcall
  · exact .inr (.inl ⟨hbesides.read h.read, hbesides.stopping.trans h.stopping,
      hbesides.asleep h.asleep, hbesides.tended m none _ h.tended⟩)

lemma Stopped.happen (h : Stopped n m e) (hhappens : Happens e e') : Stopped n m e' := by
  obtain hcall | hbesides := hhappens.besides h.tended.newest
  · exact h.call hcall
  · refine ⟨hbesides.read h.read, ⟨hbesides.refresher.trans h.passed.refresher, fun hst => ?_⟩,
      (hbesides.running n).trans h.stopped, hbesides.tended m none _ h.tended⟩
    exact h.passed.stopping (hbesides.stopping.symm.trans hst)

/-- Whatever happens, a watch that ends goes on to end. -/
theorem Ending.happen (h : Ending n m e) (hhappens : Happens e e') : Ending n m e' := by
  obtain h | h | h := h
  · exact h.happen hhappens
  · exact h.happen hhappens
  · exact .inr (.inr (h.happen hhappens))

end FeedWatch.Engine
