import FeedWatch.Proofs.Listener.Lasting
import FeedWatch.Proofs.Listener.Pauses

/-!
# Every loss is made good once

From one start of a listener to the next stop, `Engine.Tally` counts the handshakes that fail, the
attempts that are made and how often the listener is disconnected, and notes when it was last.
`Engine.Kept` balances these counts against those of the listener, and says of the task of the
connection that it is on time; each call keeps it.  Main statement: each failed handshake and each
end of a connection leads to one pause, one reconnect is scheduled for each, and the next attempt is
made when the delay since is over, not before and not after (`Running.reconnects`).
-/

namespace FeedWatch

namespace Engine

open Relation

/-! ## Runs of a listener -/

/-- How many handshakes fail in a call. -/
def handshakeFailures (c : Call) (e : Engine) : Nat :=
  match c with
  | .turn i =>
    match e.task? i with
    | some t => if t.cancelled then 0 else t.work.failures e.feed
    | none => 0
  | _ => 0

/-- Whether a call disconnects the listener: the phase becomes that, or is that again after an
attempt. -/
def Disconnects (e e' : Engine) : Prop :=
  (e'.listener 0).phase = .disconnected ∧
    ((e.listener 0).phase ≠ .disconnected ∨ e.feed.urls.length < e'.feed.urls.length)

instance (e e' : Engine) : Decidable (Disconnects e e') := inferInstanceAs (Decidable (_ ∧ _))

/-- Whether a connection has ended whose socket is still being closed. -/
def isClosing (e : Engine) : Bool := e.tasks.any fun t => t.work.owes == 1

/-- What is counted from the start of a listener on: the handshakes that failed, the attempts that
were made, how often the listener was disconnected, and when it was last. -/
structure Tally where
  failures : Nat
  dials : Nat
  entries : Nat
  entered : Option Binary64

/-- Nothing was counted yet. -/
def Tally.zero : Tally := ⟨0, 0, 0, none⟩

/-- A call is counted that was made in one state and led to another one. -/
def Tally.count (c : Call) (e e' : Engine) (y : Tally) : Tally :=
  { failures := y.failures + handshakeFailures c e
    dials := y.dials + (e'.feed.urls.length - e.feed.urls.length)
    entries := if Disconnects e e' then y.entries + 1 else y.entries
    entered := if Disconnects e e' then some e'.schedule.now else y.entered }

/-- A listener was started, and was not stopped since; calls were made as the schedule has them, and
were counted.  All timers are due at numbers, and a socket that fails to close does so because the
connection is lost. -/
inductive Running (e₁ : Engine) : Tally → Engine → Prop
  | start : Running e₁ .zero (e₁.startListener 0)
  | call {y : Tally} {e : Engine} {mayMove : Bool} {c : Call} {s : Schedule} (h : Running e₁ y e)
    (hnext : e.schedule.next? mayMove = some (c, s))
    (hnumeric : (make c { e with schedule := s }).schedule.IsNumeric)
    (hmild : (make c { e with schedule := s }).feed.ClosesMildly) :
    Running e₁ (y.count c { e with schedule := s } (make c { e with schedule := s }))
      (make c { e with schedule := s })
  | outside {y : Tally} {e e' : Engine} (h : Running e₁ y e) (hstep : Step (fun _ _ => False) e e')
    (hrunning : (e'.listener 0).running = true) (hnumeric : e'.schedule.IsNumeric)
    (hmild : e'.feed.ClosesMildly) : Running e₁ y e'

/-- What may happen while all timers are due at numbers. -/
def NumericStep (e e' : Engine) : Prop := Step Scheduled e e' ∧ e'.schedule.IsNumeric

/-! ## Keeping the books -/

/-- Since a listener was started, its counts and what was counted of its run agree, and the task of
the connection is where they say. -/
structure Counted (e₁ : Engine) (y : Tally) (t : Task) (e : Engine) : Prop extends Steady t e where
  attempts : (e.listener 0).connectAttempts = (e₁.listener 0).connectAttempts + y.dials
  scheduled : (e.listener 0).reconnectsScheduled = (e₁.listener 0).reconnectsScheduled + y.entries
  lost : y.failures + e.feed.losses = e₁.feed.losses + y.entries + t.work.owes
  dialed : y.dials + t.work.calls = y.entries + t.work.owes + t.work.ahead
  first : y.entered = none → y.entries = 0
  timing : e.timing = e₁.timing

/-- The counts agree, and the task of the connection is on time. -/
structure Kept (e₁ : Engine) (delay : Binary64) (y : Tally) (t : Task) (e : Engine) : Prop
    extends Counted e₁ y t e where
  timely : Timely delay y.entered t e

variable {e₁ e e' : Engine} {t t' : Task} {s : Schedule} {mayMove : Bool} {c : Call} {y : Tally}
variable {delay since : Binary64} {off : Nat → Prop} {i : TaskId}

/-- What happens apart from the task of the connection is not counted. -/
lemma Kept.apart (h : Kept e₁ delay y t e) (hapart : Apart t.id e e') (htouched : Touched off e e')
    (hoff : ∀ n, off n → ∃ t' ∈ e.tasks, t'.timer = some n ∧ t'.id ≠ t.id) :
    ∃ t', Kept e₁ delay y t' e' := by
  obtain ⟨t', ht', hstays⟩ := h.toSteady.apart hapart
  have hread : e'.feed.losses = e.feed.losses :=
    congrArg (fun read => read.countP (·.2.ends)) hapart.read
  refine ⟨t', ⟨ht', hapart.attempts.trans h.attempts, hapart.scheduled.trans h.scheduled, ?_, ?_,
    h.first, hapart.timing.trans h.timing⟩, h.timely.apart hstays htouched hoff⟩
  · rw [hread, hstays.work]
    exact h.lost
  · rw [hstays.work]
    exact h.dialed

/-- A call that changes neither the phase nor the attempts counts no more than itself. -/
lemma Tally.count_eq (hfailures : handshakeFailures c e = 0)
    (hphase : (e'.listener 0).phase = (e.listener 0).phase) (hurls : e'.feed.urls = e.feed.urls) :
    y.count c e e' = y := by
  have hnot : ¬ Disconnects e e' := by
    rintro ⟨hdisconnected, hphase' | hlt⟩
    · exact hphase' (hphase ▸ hdisconnected)
    · rw [hurls] at hlt
      exact Nat.lt_irrefl _ hlt
  rw [count, hfailures, hurls, Nat.sub_self, if_neg hnot, if_neg hnot]
  rfl

/-- No handshake fails but in the turn of the task of the connection. -/
lemma handshakeFailures_eq_zero {fifo : Prop} (h : Rest fifo e) (ht : Linked t e)
    (hc : c ≠ .turn t.id) : handshakeFailures c e = 0 := by
  cases c with
  | turn i =>
    rw [handshakeFailures]
    cases ht' : e.task? i with
    | none => rfl
    | some t' =>
      dsimp only
      split_ifs
      · rfl
      · have hother : ∀ l, t'.work.duty ≠ .link l := by
          intro l hl
          obtain rfl := ht.eq_of_link h (mem_of_task? ht') hl
          exact hc (congrArg Call.turn (id_of_task? ht').symm)
        cases hwork : t'.work with
        | connect =>
          rw [hwork] at hother
          exact absurd rfl (hother .connecting)
        | connected a =>
          rw [hwork] at hother
          exact absurd rfl (hother .shaking)
        | _ => rfl
  | _ => rfl

/-- The handshakes that fail in the turn of the task of the connection are those of its work. -/
lemma Linked.handshakeFailures_turn (h : Linked t e) (hready : Ready True t e) :
    handshakeFailures (.turn t.id) e = t.work.failures e.feed := by
  rw [handshakeFailures]
  simp only [hready.task, h.going, if_neg Bool.false_ne_true]

/-- The task of the connection goes on from an attempt or from a socket that is being closed. -/
lemma Onward.keeps (h : Onward t.work (t.work.failures e.feed) t.work.calls e t' e')
    (ht : Counted e₁ y t e) (hopen : t.work.ahead + t.work.owes = 1)
    (hfailures : handshakeFailures c e = t.work.failures e.feed) :
    Kept e₁ delay (y.count c e e') t' e' := by
  obtain ⟨hsteady, hwaits, hrests, htiming, hurls, hattempts, hlost, hkept⟩ := h
  have hdials : (y.count c e e').dials = y.dials + t.work.calls := by
    rw [Tally.count, hurls, Nat.add_sub_cancel_left]
  have hbefore : (e.listener 0).phase ≠ .disconnected ∨
      e.feed.urls.length < e'.feed.urls.length := by
    rw [hurls]
    by_cases hphase : (e.listener 0).phase = .disconnected
    · rw [ht.toSteady.connect_of_open hopen hphase]
      exact .inr (Nat.lt_succ_self _)
    · exact .inl hphase
  have hcalls : t'.work.calls = 0 := by
    cases hw : t'.work with
    | connect => exact absurd hw hwaits
    | _ => rfl
  -- it has lost the connection and pauses, or the attempt is there or a socket is being closed
  have hmoved : (y.count c e e').entries + t'.work.owes + t'.work.ahead = y.entries + 1 ∧
      ((y.count c e e').entered = none → (y.count c e e').entries = 0) ∧
      Timely delay (y.count c e e').entered t' e' := by
    obtain hopen' | hpause | hreconnect := hsteady.toLinked.cases
    · have hnot : ¬ Disconnects e e' := by
        rintro ⟨hphase, -⟩
        exact hwaits (hsteady.connect_of_open hopen' hphase)
      have hentries : (y.count c e e').entries = y.entries := if_neg hnot
      have hentered : (y.count c e e').entered = y.entered := if_neg hnot
      rw [hentries, hentered]
      exact ⟨by omega, ht.first, .open hopen' hwaits⟩
    · have hphase : (e'.listener 0).phase = .disconnected :=
        hsteady.phase _ (by rw [hpause]; rfl)
      have hdisconnects : Disconnects e e' := ⟨hphase, hbefore⟩
      have hentries : (y.count c e e').entries = y.entries + 1 := if_pos hdisconnects
      have hentered : (y.count c e e').entered = some e'.schedule.now := if_pos hdisconnects
      obtain ⟨-, hwait, hqueue⟩ := hrests (by rw [hpause]; rfl) (by rw [hpause]; rfl)
      rw [hentries, hentered]
      refine ⟨by rw [hpause]; rfl, nofun, .stands hwait hqueue ?_⟩
      rw [hpause]
      exact rfl
    · rw [hreconnect] at hrests
      cases (hrests rfl rfl).1
  obtain ⟨hmoved, hfirst, htimely⟩ := hmoved
  have hfailed : (y.count c e e').failures = y.failures + t.work.failures e.feed :=
    congrArg (y.failures + ·) hfailures
  refine ⟨⟨hsteady, ?_, ?_, ?_, ?_, hfirst, htiming.trans ht.timing⟩, htimely⟩
  · rw [hdials, hattempts, ht.attempts, Nat.add_assoc]
  · have hscheduled := ht.scheduled
    omega
  · have hlost' := ht.lost
    omega
  · have hdialed := ht.dialed
    omega

/-- The task of the connection takes its turn. -/
lemma Counted.turn (h : Counted e₁ y t e) (hpunctual : Punctual e) (hready : Ready True t e)
    (hdue : IsDueTo delay y.entered e.schedule.now t.work) (hmild : e.feed.ClosesMildly)
    (hdelay : e₁.timing.reconnectDelay = some delay) :
    ∃ t', Kept e₁ delay (y.count (.turn t.id) e (e.runTask t)) t' (e.runTask t) := by
  have hfailures := h.toLinked.handshakeFailures_turn hready
  obtain hopen | hwork | hwork := h.toLinked.cases
  · obtain ⟨t', ht'⟩ := h.toSteady.onward hready hmild hopen
    exact ⟨t', ht'.keeps h hopen hfailures⟩
  · rw [h.toSteady.pause hwork (h.timing ▸ hdelay)]
    have hlistener := listener_awaitTime t.id .reconnect delay e
    have hfeed := feed_awaitTime t.id .reconnect delay e
    rw [hwork] at hdue hfailures
    obtain ⟨t', ht', hwork', htimely⟩ := h.toLinked.timely_awaitTime hpunctual delay
    rw [Tally.count_eq hfailures (by rw [hlistener]) (by rw [hfeed])]
    refine ⟨t', ⟨h.toSteady.awaitTime hwork ht' hwork', ?_, ?_, ?_, ?_, h.first,
      (timing_awaitTime _ _ _ _).trans h.timing⟩, ?_⟩
    · rw [hlistener]
      exact h.attempts
    · rw [hlistener]
      exact h.scheduled
    · have hlost := h.lost
      rw [hwork] at hlost
      rw [hfeed, hwork']
      exact hlost
    · have hdialed := h.dialed
      rw [hwork] at hdialed
      rw [hwork']
      exact hdialed
    · rw [show y.entered = some e.schedule.now from hdue]
      exact htimely
  · rw [h.toSteady.reconnect hready hwork]
    obtain ⟨t', ht', hlistener, hfeed, htiming⟩ := dials_reconnect hready.orderly h.running
    have htouched : Touched (fun _ => False) e (e.reconnect 0 t.id) :=
      (Works.reconnect 0 t.id e).touched
    have hnow := htouched.schedule.queue.1
    rw [hwork] at hdue hfailures
    rw [Tally.count_eq hfailures (by rw [hlistener]) (by rw [hfeed])]
    refine ⟨t', ⟨ht'.steady (by rw [hlistener]; exact h.running), ?_, ?_, ?_, ?_, h.first,
      htiming.trans h.timing⟩, .stands ht'.wait ht'.queue ?_⟩
    · rw [hlistener]
      exact h.attempts
    · rw [hlistener]
      exact h.scheduled
    · have hlost := h.lost
      rw [hwork] at hlost
      rw [hfeed, ht'.work]
      exact hlost
    · have hdialed := h.dialed
      rw [hwork] at hdialed
      rw [ht'.work]
      exact congrArg (· + 1) hdialed
    · rw [ht'.work, hnow]
      intro since hsince
      obtain ⟨since', hsince', honTime⟩ := hdue
      cases hsince.symm.trans hsince'
      exact honTime

/-! ## Calls -/

lemma Counted.plan (h : Counted e₁ y t e) (s : Schedule) :
    Counted e₁ y t { e with schedule := s } :=
  ⟨⟨⟨h.mem, h.going, h.link⟩, h.running, h.phase, h.mild⟩, h.attempts, h.scheduled, h.lost,
    h.dialed, h.first, h.timing⟩

/-- The next call is made, and is counted. -/
lemma Kept.call (h : Kept e₁ delay y t e) (hrest : Rest True e)
    (hplanned : Rest False { e with schedule := s }) (hpunctual : Punctual e)
    (hmild : e.feed.ClosesMildly) (hdelay : e₁.timing.reconnectDelay = some delay)
    (hnext : e.schedule.next? mayMove = some (c, s)) :
    ∃ t', Kept e₁ delay (y.count c { e with schedule := s } (make c { e with schedule := s })) t'
      (make c { e with schedule := s }) := by
  by_cases hturn : c = .turn t.id
  · subst hturn
    obtain ⟨hwait, hready⟩ := hrest.readyNext hnext h.mem rfl
    have hmake : make (.turn t.id) { e with schedule := s } =
        runTask t { e with schedule := s } := by
      rw [make]
      simp only [hready.task]
    rw [hmake]
    exact (h.toCounted.plan s).turn (hpunctual.plan hnext) hready
      (h.timely.due hpunctual hnext hwait) hmild hdelay
  · have hlinked : Linked t { e with schedule := s } := (h.toCounted.plan s).toLinked
    have hfailures := handshakeFailures_eq_zero hplanned hlinked hturn
    by_cases hring : ∃ n, c = .alarm (.ring t.id n) ∧ t.wait = .timer n
    · obtain ⟨n, rfl, hwait⟩ := hring
      obtain ⟨hsteady, hqueue⟩ := (h.toCounted.plan s).toSteady.ring hwait
      have hphase : ((make (.alarm (.ring t.id n)) { e with schedule := s }).listener 0).phase =
          (e.listener 0).phase := rfl
      rw [Tally.count_eq hfailures hphase rfl]
      exact ⟨_, ⟨hsteady, h.attempts, h.scheduled, h.lost, h.dialed, h.first, h.timing⟩,
        h.timely.ring hpunctual hnext hwait hqueue rfl⟩
    · have happens := (apart_make hplanned h.running hlinked c).resolve_left fun hc => hturn hc.1
      have hapart := happens.resolve_left hring
      have hkept : Kept e₁ delay y t { e with schedule := s } := ⟨h.toCounted.plan s,
        h.timely.plan hpunctual hnext hturn fun n hc hwait => hring ⟨n, hc, hwait⟩⟩
      rw [Tally.count_eq hfailures hapart.phase hapart.urls]
      refine hkept.apart hapart (touches_make c _) fun n hn => ?_
      obtain ⟨t', ht', rfl, -, htimer⟩ := hn
      exact ⟨t', ht', htimer, fun hid => hturn (congrArg Call.turn hid)⟩

/-- Between the calls a listener that runs is left alone, unless it is stopped. -/
lemma Kept.outside (h : Kept e₁ delay y t e) (hrest : Rest True e)
    (hstep : Step (fun _ _ => False) e e') (hrunning : (e'.listener 0).running = true) :
    ∃ t', Kept e₁ delay y t' e' := by
  have htouched : Touched (fun _ => False) e e' := hstep.touches.resolve_left id
  obtain ⟨hstopped, -⟩ | hstopped | ⟨-, hapart⟩ | ⟨feed, network, disk, hread, rfl⟩ :=
    (hstep.cases_of_linked hrest).resolve_left id
  · rw [h.running] at hstopped
    cases hstopped
  · rw [hstopped] at hrunning
    cases hrunning
  · exact h.apart (hapart t h.toLinked) htouched nofun
  · have hlosses : feed.losses = e.feed.losses :=
      congrArg (fun read => read.countP (·.2.ends)) hread
    refine ⟨t, ⟨⟨⟨h.mem, h.going, h.link⟩, h.running, h.phase, h.mild⟩, h.attempts, h.scheduled, ?_,
      h.dialed, h.first, h.timing⟩, h.timely.apart (.refl t) htouched nofun⟩
    rw [show y.failures + feed.losses = y.failures + e.feed.losses by rw [hlosses]]
    exact h.lost

/-! ## Attempts -/

/-- An attempt is made in no call but the turn of a task that is to connect, which is on time. -/
lemma Kept.dials (h : Kept e₁ delay y t e) (hrest : Rest True e)
    (hplanned : Rest False { e with schedule := s }) (hpunctual : Punctual e)
    (hmild : e.feed.ClosesMildly) (hdelay : e₁.timing.reconnectDelay = some delay)
    (hnext : e.schedule.next? mayMove = some (c, s)) :
    (make c { e with schedule := s }).feed.urls.length = e.feed.urls.length ∨
      (make c { e with schedule := s }).feed.urls.length = e.feed.urls.length + 1 ∧
        y.dials = y.entries ∧ ∀ since, y.entered = some since → OnTime delay since s.now := by
  by_cases hturn : c = .turn t.id
  · subst hturn
    obtain ⟨hwait, hready⟩ := hrest.readyNext hnext h.mem rfl
    have hdue := h.timely.due hpunctual hnext hwait
    have hcounted := h.toCounted.plan s
    rw [make]
    simp only [hready.task]
    obtain hopen | hwork | hwork := h.toLinked.cases
    · obtain ⟨t', ht'⟩ := hcounted.toSteady.onward hready hmild hopen
      rw [ht'.urls]
      cases hwork : t.work with
      | connect =>
        have hdialed := h.dialed
        rw [hwork] at hdue hdialed
        exact .inr ⟨rfl, Nat.succ.inj hdialed, hdue⟩
      | _ => exact .inl rfl
    · rw [hcounted.toSteady.pause hwork (hcounted.timing ▸ hdelay), feed_awaitTime]
      exact .inl rfl
    · obtain ⟨t', -, -, hfeed, -⟩ := dials_reconnect hready.orderly h.running
      rw [hcounted.toSteady.reconnect hready hwork, hfeed]
      exact .inl rfl
  · left
    obtain ⟨hc, -⟩ | ⟨n, rfl, -⟩ | hapart :=
      apart_make hplanned h.running (h.toCounted.plan s).toLinked c
    · exact absurd hc hturn
    · rfl
    · rw [hapart.urls]

/-- A socket that is being closed is that of the task of the connection. -/
lemma Linked.isClosing_eq {fifo : Prop} (h : Linked t e) (hrest : Rest fifo e) :
    e.isClosing.toNat = t.work.owes := by
  by_cases hclosing : e.isClosing = true
  · obtain ⟨t', ht', howes⟩ := List.any_eq_true.1 hclosing
    have hlink : ∃ l, t'.work.duty = .link l := by
      cases hwork : t'.work with
      | closed failure => exact ⟨.closing, rfl⟩
      | _ =>
        rw [hwork] at howes
        cases howes
    obtain ⟨l, hl⟩ := hlink
    obtain rfl := h.eq_of_link hrest ht' hl
    rw [hclosing, beq_iff_eq.1 howes]
    rfl
  · rw [Bool.eq_false_iff.2 hclosing]
    cases hwork : t.work with
    | closed failure =>
      exact absurd (List.any_eq_true.2 ⟨t, h.mem, by rw [hwork]; rfl⟩) hclosing
    | _ => rfl

/-- While the listener is disconnected, some call is to come. -/
lemma Timely.next?_ne_none {entered : Option Binary64} (h : Timely delay entered t e)
    (ht : Steady t e) (hpunctual : Punctual e) (hclock : 0 ≤ e.schedule.now.value)
    (htold : ∀ timer ∈ e.schedule.timers, Schedule.IsTold timer)
    (hphase : (e.listener 0).phase = .disconnected) : e.schedule.next? true ≠ none := by
  obtain ⟨hsane, hnumeric, -, -⟩ := hpunctual
  cases h with
  | stands _ hqueue _ => exact Schedule.next?_ne_none_of_mem hsane hnumeric hqueue
  | pends _ n _ _ _ hawaits _ =>
    obtain ⟨timer, htimer, -, -, hgoing⟩ | hrung := hawaits.going
    · exact Schedule.next?_ne_none hsane hnumeric hclock htimer hgoing htold
    · exact Schedule.next?_ne_none_of_mem hsane hnumeric hrung
  | «open» hopen hconnect => exact absurd (ht.connect_of_open hopen hphase) hconnect

/-! ## Runs -/

variable {e₀ : Engine}

lemma Step.imp {next next' : Engine → Engine → Prop} (h : Step next e e')
    (hnext : next e e' → next' e e') : Step next' e e' := by
  cases h with
  | call hcall => exact .call (hnext hcall)
  | start _ hawake => exact .start _ hawake
  | stop _ hawake => exact .stop _ hawake
  | sleep _ hawake delay => exact .sleep _ hawake delay
  | refresher => exact .refresher _
  | arrive _ a => exact .arrive _ a
  | operate _ st f => exact .operate _ st f
  | world _ feed network disk hclosings hread =>
    exact .world _ feed network disk hclosings hread

/-- A run in which all timers are due at numbers is a run, and its schedule is in order. -/
lemma IsFresh.reachable_punctual (h : IsFresh e₀) (hsteps : ReflTransGen NumericStep e₀ e₁) :
    Reachable Scheduled e₁ ∧ Punctual e₁ := by
  induction hsteps with
  | refl => exact ⟨⟨e₀, h, .refl⟩, h.punctual⟩
  | tail _ hstep ih => exact ⟨ih.1.step hstep.1, ih.2.step hstep.1 hstep.2⟩

/-- What holds of every state of the run. -/
structure OnCourse (e₁ : Engine) (delay : Binary64) (y : Tally) (e : Engine) : Prop where
  reachable : Reachable Scheduled e
  punctual : Punctual e
  mild : e.feed.ClosesMildly
  kept : ∃ t, Kept e₁ delay y t e

lemma OnCourse.rest (h : OnCourse e₁ delay y e) (s : Schedule) :
    Rest True e ∧ Rest False { e with schedule := s } :=
  ⟨h.reachable.inOrder.rest_inOrder, h.reachable.inOrder.inAnyOrder.rest.inAnyOrder (.plan s)⟩

lemma onCourse_startListener (hreach : Reachable Scheduled e₁) (hpunctual : Punctual e₁)
    (hawake : e₁.isAwake = true) (hstopped : (e₁.listener 0).running = false)
    (hmild : e₁.feed.ClosesMildly) : OnCourse e₁ delay .zero (e₁.startListener 0) := by
  obtain ⟨t, ht, hlistener, hfeed, htiming⟩ :=
    dials_startListener hreach.inOrder.rest_inOrder.orderly.station hstopped
  have hstep : Step Scheduled e₁ (e₁.startListener 0) := .start e₁ hawake
  have htimers : (e₁.startListener 0).schedule.timers = e₁.schedule.timers := by
    rw [startListener, if_neg (Bool.eq_false_iff.1 hstopped)]
    rfl
  have hnumeric : (e₁.startListener 0).schedule.IsNumeric := by
    intro timer htimer
    exact hpunctual.numeric timer (htimers ▸ htimer)
  refine ⟨hreach.step hstep, hpunctual.step hstep hnumeric, hfeed ▸ hmild, t,
    ⟨⟨ht.steady (by rw [hlistener]), ?_, ?_, ?_, ?_, fun _ => rfl, htiming⟩,
      .stands ht.wait ht.queue ?_⟩⟩
  · rw [hlistener]
    rfl
  · rw [hlistener]
    rfl
  · rw [hfeed, ht.work, Tally.zero]
    exact Nat.zero_add _
  · rw [ht.work]
    rfl
  · rw [ht.work]
    rintro entered ⟨⟩

lemma Running.onCourse (hreach : Reachable Scheduled e₁) (hpunctual : Punctual e₁)
    (hawake : e₁.isAwake = true) (hstopped : (e₁.listener 0).running = false)
    (hmild : e₁.feed.ClosesMildly) (hdelay : e₁.timing.reconnectDelay = some delay)
    (h : Running e₁ y e) : OnCourse e₁ delay y e := by
  induction h with
  | start => exact onCourse_startListener hreach hpunctual hawake hstopped hmild
  | @call y e mayMove c s _ hnext hnumeric hmild' ih =>
    obtain ⟨hrest, hplanned⟩ := ih.rest s
    obtain ⟨t, ht⟩ := ih.kept
    have hstep : Step Scheduled e (make c { e with schedule := s }) := by
      refine .call ⟨mayMove, ?_⟩
      rw [step?, hnext]
    exact ⟨ih.reachable.step hstep, ih.punctual.step hstep hnumeric, hmild',
      ht.call hrest hplanned ih.punctual ih.mild hdelay hnext⟩
  | @outside y e e' _ hstep hrunning hnumeric hmild' ih =>
    obtain ⟨t, ht⟩ := ih.kept
    have hstep' : Step Scheduled e e' := hstep.imp False.elim
    exact ⟨ih.reachable.step hstep', ih.punctual.step hstep' hnumeric, hmild',
      ht.outside (ih.rest e.schedule).1 hstep hrunning⟩

/-- From a start of the listener to the next stop, while closing a socket fails only because the
connection is lost: all attempts are counted, and a reconnect is scheduled each time the listener is
disconnected, which is once for each handshake that fails and for each connection that ends, as
soon as its socket is closed.  So there are as many attempts as reconnects were scheduled, or one
more.  The first attempt aside, an attempt is made when the delay is over since the listener was
disconnected last, and neither the attempt nor the clock is late. -/
theorem Running.reconnects (hfresh : IsFresh e₀) (hbefore : ReflTransGen NumericStep e₀ e₁)
    (hawake : e₁.isAwake = true) (hstopped : (e₁.listener 0).running = false)
    (hmild : e₁.feed.ClosesMildly) (hdelay : e₁.timing.reconnectDelay = some delay)
    (h : Running e₁ y e) :
    (e.listener 0).connectAttempts = (e₁.listener 0).connectAttempts + y.dials ∧
      (e.listener 0).reconnectsScheduled = (e₁.listener 0).reconnectsScheduled + y.entries ∧
      y.failures + e.feed.losses = e₁.feed.losses + y.entries + e.isClosing.toNat ∧
      (y.entries ≤ y.dials ∧ y.dials ≤ y.entries + 1) ∧
      (∀ mayMove c s, e.schedule.next? mayMove = some (c, s) →
        (make c { e with schedule := s }).feed.urls.length = e.feed.urls.length ∨
        (make c { e with schedule := s }).feed.urls.length = e.feed.urls.length + 1 ∧
          y.dials = y.entries ∧ ∀ since, y.entered = some since → OnTime delay since s.now) ∧
      (y.entered = none → y.entries = 0) ∧
      (∀ since, y.entered = some since → (e.listener 0).phase = .disconnected →
        e.schedule.now = since ∨ (since.add delay).isBelow e.schedule.now = false) ∧
      ((∀ timer ∈ e.schedule.timers, Schedule.IsTold timer) →
        (e.listener 0).phase = .disconnected → e.schedule.next? true ≠ none) := by
  obtain ⟨hreach, hpunctual⟩ := hfresh.reachable_punctual hbefore
  have hcourse := h.onCourse hreach hpunctual hawake hstopped hmild hdelay
  obtain ⟨t, ht⟩ := hcourse.kept
  have hrest := (hcourse.rest e.schedule).1
  have hdialed := ht.dialed
  refine ⟨ht.attempts, ht.scheduled, ?_, ?_, fun mayMove c s hnext => ?_, ht.first,
    fun since hsince hphase => ?_, fun htold hphase => ?_⟩
  · rw [ht.toLinked.isClosing_eq hrest]
    exact ht.lost
  · obtain ⟨hle, hge⟩ := t.work.calls_le
    omega
  · exact ht.dials hrest (hcourse.rest s).2 hcourse.punctual hcourse.mild hdelay hnext
  · exact (hsince ▸ ht.timely).past ht.toSteady hphase
  · exact ht.timely.next?_ne_none ht.toSteady hcourse.punctual
      hcourse.reachable.inTime.clock.2 htold hphase

/-- A feed that refuses the first attempt; thirty seconds pass before the next one. -/
def refusedOnce : Engine :=
  (start ⟨"", .zero false, some (.finite false 30 0), .zero false⟩ 0 ⟨["settings"], ""⟩ .empty
    ⟨[], [], 0⟩ (.ofScript [{ Attempt.plain with fails := some .refused }])).addStation
      ⟨⟨["settings"], ""⟩, .empty, .empty, ⟨⟨true, [], "", none⟩, []⟩, 0⟩
      (.start .standard .none (.scripted []) ⟨[], [], 0⟩)

/-- A schedule with nothing in its queue. -/
def idleAt (now : Binary64) (timers : Array Timer) (nextTimer : Nat) : Schedule :=
  { now, queue := [], left := 0, timers, nextTimer, calledOff := 0 }

/-- When there is but one timer, the clock moves to it, and it goes off. -/
lemma next?_idleAt {timer : Timer} {now : Binary64} {n : Nat} (hgoing : timer.isCalledOff = false)
    (hfinite : timer.due.isFinite = true) (hlater : now.isBelow timer.due = true)
    (hdue : timer.due.isBelow (timer.due.add Schedule.grain) = true) :
    (idleAt now #[timer] n).next? true = some (.alarm timer.alarm, idleAt timer.due #[] n) := by
  have hpop : Heap.pop? Timer.before #[timer] = some (timer, #[]) := rfl
  have htidy : (idleAt now #[timer] n).tidy = idleAt now #[timer] n := by
    rw [Schedule.tidy, if_neg (by rintro ⟨⟩)]
    show (idleAt now #[timer] n).dropFront 1 = _
    rw [Schedule.dropFront, show (idleAt now #[timer] n).timers = #[timer] from rfl, hpop]
    exact if_neg (by rw [hgoing]; rintro ⟨⟩)
  have hmove : (idleAt now #[timer] n).moveClock = idleAt timer.due #[timer] n :=
    if_pos (Bool.and_eq_true_iff.2 ⟨hlater, hfinite⟩)
  have hpopDue : Schedule.popDue (timer.due.add Schedule.grain) 1 #[timer] =
      ([timer.alarm], #[]) := by
    rw [Schedule.popDue, hpop]
    simp only [hdue]
    rfl
  have hround : (idleAt now #[timer] n).beginRound true =
      { idleAt timer.due #[] n with queue := [.alarm timer.alarm], left := 1 } := by
    have hempty : ((idleAt now #[timer] n).queue.isEmpty && true) = true := rfl
    have hsize : (idleAt timer.due #[timer] n).timers.size = 1 := rfl
    simp only [Schedule.beginRound, htidy, hempty, if_true, hmove, hsize]
    simp only [idleAt, hpopDue]
    rfl
  have hleft : (idleAt now #[timer] n).left = 0 := rfl
  simp only [Schedule.next?, hleft, if_true, hround]
  rfl

/-- Thirty seconds after time zero. -/
def thirty : Binary64 := .finite false (30 * 2 ^ 48) (-48)

lemma add_thirty : (Binary64.zero false).add (.finite false 30 0) = thirty := by
  decide +kernel

/-- The first attempt is refused, one reconnect is scheduled, and thirty seconds later the second
attempt is made. -/
theorem Running.reconnects_refused : ∃ y e s, IsFresh refusedOnce ∧
    refusedOnce.feed.ClosesMildly ∧ Running refusedOnce y e ∧ y.entered = some (.zero false) ∧
    (e.listener 0).connectAttempts = 1 ∧ (e.listener 0).reconnectsScheduled = 1 ∧
    e.schedule.next? true = some (.turn 3, s) ∧
    (make (.turn 3) { e with schedule := s }).feed.urls.length = 2 ∧
    OnTime (.finite false 30 0) (.zero false) s.now := by
  have hfresh : IsFresh refusedOnce := .intro _ _ _ _ _ _ _ _ rfl
  have hmild : ∀ feed : Feed, feed.sockets = [] →
      feed.script.map Attempt.closeFails ⊆ [none] → feed.ClosesMildly := by
    intro feed hsockets hscript
    refine ⟨fun socket hsocket => ?_, fun a ha => ?_⟩
    · rw [hsockets] at hsocket
      cases hsocket
    · rw [List.mem_singleton.1 (hscript (List.mem_map_of_mem ha))]
      nofun
  have hnumeric : ∀ (now : Binary64) (n : Nat), (idleAt now #[] n).IsNumeric := by
    intro now n timer htimer
    cases Array.not_mem_empty timer htimer
  -- the attempt is refused, and a pause begins
  have hstart : Running refusedOnce .zero (refusedOnce.startListener 0) := .start
  have hrefused := hstart.call
    (show Schedule.next? true _ = some (.turn 1, idleAt (.zero false) #[] 0) from rfl)
    (hnumeric (.zero false) 0) (hmild _ rfl (by decide))
  have hpause : (make (.turn 2) { make (.turn 1) { refusedOnce.startListener 0 with
      schedule := idleAt (.zero false) #[] 0 } with
      schedule := idleAt (.zero false) #[] 0 }).schedule =
        idleAt (.zero false) #[⟨0, thirty, .ring 2 0, false⟩] 1 := by
    have hpush : ∀ timer, Heap.push Timer.before timer #[] = #[timer] := by
      intro timer
      rw [Heap.push, Heap.rise]
      rfl
    show idleAt (.zero false) (Heap.push Timer.before
      ⟨0, (Binary64.zero false).add (.finite false 30 0), .ring 2 0, false⟩ #[]) 1 = _
    rw [hpush, add_thirty]
  have hpauses := hrefused.call
    (show Schedule.next? true _ = some (.turn 2, idleAt (.zero false) #[] 0) from rfl)
    (by
      rw [hpause]
      intro timer htimer
      rw [Array.mem_singleton.1 htimer]
      nofun) (hmild _ rfl (by decide))
  -- the clock moves to the end of the pause
  have hrings := hpauses.call
    (show Schedule.next? true _ = some (.alarm (.ring 2 0), idleAt thirty #[] 1) from
      hpause ▸ next?_idleAt rfl rfl (by decide +kernel) (by decide +kernel))
    (hnumeric thirty 1) (hmild _ rfl (by decide))
  have hconnects := hrings.call
    (show Schedule.next? true _ = some (.turn 2, idleAt thirty #[] 1) from rfl)
    (hnumeric thirty 1) (hmild _ rfl (by decide))
  obtain ⟨hattempts, hscheduled, -, -, honTime, -⟩ := Running.reconnects hfresh .refl rfl rfl
    (hmild _ rfl (by decide)) rfl hconnects
  refine ⟨_, _, idleAt thirty #[] 1, hfresh, hmild _ rfl (by decide), hconnects, rfl, hattempts,
    hscheduled, rfl, rfl, ?_⟩
  obtain hsame | ⟨-, -, honTime⟩ := honTime true (.turn 3) (idleAt thirty #[] 1) rfl
  · exact absurd hsame (by decide)
  · exact honTime _ rfl

end Engine

end FeedWatch
