import FeedWatch.Proofs.Listener.Outline

/-!
# The moves of a listener

A connection gets on, ends, or is begun, messages are read, and stopping goes from stage to stage.
Each of these moves leads from sound outlines to sound outlines, and where it takes the end of a
connection to make it, from outlines without a connection (`Outline.Free`).

Each part of soundness is about few components of the outline.  A move that leaves them alone keeps
the part; otherwise its clauses are checked one by one for the task that moves and for the others.
-/

namespace FeedWatch

namespace Outline

variable {o : Outline} {i j : TaskId} {d : Duty} {l : Link} {s n : Nat} {a : Arrival} {p : Payload}
variable {fifo : Prop} {f : Option Failure} {rest : List TaskId}

/-! ## A task goes on -/

lemma filter_pending (h : ∀ q ∈ o.pending, q.1 ≠ i) :
    (o.pending.filter fun q => q.1 ≠ i) = o.pending :=
  List.filter_eq_self.2 fun q hq => decide_eq_true (h q hq)

/-- A task with another duty is no pending frame. -/
lemma Ledger.notPending (h : o.Ledger fifo) (hi : o.duty i ≠ some .aside) :
    ∀ q ∈ o.pending, q.1 ≠ i := by
  rintro q hq rfl
  exact hi (h.below q hq)

/-- Nor is the party outside. -/
lemma Sound.outside_notPending (h : o.Sound fifo) : ∀ q ∈ o.pending, q.1 ≠ Engine.outside := by
  refine h.ledger.notPending ?_
  rw [h.slots.party]
  exact fun heq => Duty.noConfusion (Option.some.inj heq)

/-- The ledger does not depend on a task that is no pending frame. -/
lemma Ledger.update (h : o.Ledger fifo) (hpending : ∀ q ∈ o.pending, q.1 ≠ i) (d : Option Duty) :
    Ledger fifo { o with
      duty := Function.update o.duty i d, pending := o.pending.filter fun q => q.1 ≠ i } := by
  rw [filter_pending hpending]
  refine { h with below := fun q hq => ?_ }
  exact (Function.update_of_ne (hpending q hq) _ _).trans (h.below q hq)

lemma Ledger.put (h : o.Ledger fifo) (d : Duty) (hi : o.duty i ≠ some .aside) :
    (o.put i d).Ledger fifo := h.update (h.notPending hi) (some d)

/-- A task that stays what it is leaves the outline as it is. -/
lemma put_self (hi : o.duty i = some d) (hpending : ∀ q ∈ o.pending, q.1 ≠ i) : o.put i d = o := by
  rw [put, filter_pending hpending, ← hi, Function.update_eq_self]

lemma Slots.put (h : o.Slots) (l' : Link) (hi : o.duty i = some (.link l)) (hl : l ≠ .pausing)
    (hl' : l' ≠ .pausing) : (o.put i (.link l')).Slots := by
  cases h
  constructor
  all_goals simp only [Outline.put, Function.update_apply] at *; grind

lemma Halts.put (h : o.Halts) (l' : Link) (hi : o.duty i = some (.link l)) :
    (o.put i (.link l')).Halts := by
  cases h
  constructor
  all_goals simp only [Outline.put, IsLeft, IsCancelling, Function.update_apply] at *; grind

lemma Readings.put (h : o.Readings) (d : Duty) (hd : ∀ s, d ≠ .link (.reading s)) :
    (o.put i d).Readings := by
  refine ⟨h.bound, fun j s hj => ?_, h.ends⟩
  simp only [Outline.put, Function.update_apply] at hj
  split_ifs at hj
  · exact absurd (Option.some.inj hj) (hd s)
  · exact h.going j s hj

/-- An attempt to connect begins. -/
lemma Sound.connect (h : o.Sound fifo) (hi : o.duty i = some (.link .connecting)) (n : Nat) :
    Sound fifo { o.put i (.link .shaking) with
      listener := { o.listener with
        phase := .connecting, connectAttempts := n, hasSession := true } } := by
  obtain ⟨hslots, hphases, hhalts, hsockets, hreadings, hledger⟩ := h
  refine ⟨?_, ?_, ?_, ?_, ?_, ?_⟩
  · exact { hslots.put .shaking hi (by simp) (by simp) with }
  · cases hslots
    cases hphases
    constructor
    all_goals simp only [put, Function.update_apply] at *; grind
  · exact { hhalts.put .shaking hi with }
  · cases hsockets
    constructor
    all_goals simp only [put, IsCancelling, Function.update_apply] at *; grind
  · exact { hreadings.put (i := i) (.link .shaking) (by simp) with }
  · exact { hledger.put (.link .shaking) (by rw [hi]; simp) with }

/-- A connection is made and has a new socket. -/
lemma Sound.accept (h : o.Sound fifo) (hi : o.duty i = some (.link .shaking)) :
    Sound fifo { o.put i (.link (.reading o.closings.length)) with
      listener := { o.listener with socket := some o.closings.length, phase := .connected }
      closings := o.closings ++ [0] } := by
  obtain ⟨hslots, hphases, hhalts, hsockets, hreadings, hledger⟩ := h
  -- while a task is shaking hands every socket is closed, so the new one is the only open one
  refine ⟨?_, ?_, ?_, ?_, ?_, ?_⟩
  · exact { hslots.put (.reading o.closings.length) hi (by simp) (by simp) with }
  · cases hslots
    cases hphases
    constructor
    all_goals simp only [put, Function.update_apply] at *; grind
  · exact { hhalts.put (.reading o.closings.length) hi with }
  · cases hslots
    cases hsockets
    constructor
    all_goals simp only [put, IsCancelling, Function.update_apply] at *; grind
  · have hsingle := hslots.single
    have hbound := hreadings.bound
    refine ⟨?_, ?_, hreadings.ends⟩
    all_goals simp only [put, Function.update_apply, List.length_append] at *; grind
  · exact { hledger.put (.link (.reading o.closings.length)) (by rw [hi]; simp) with }

/-! ## A new task -/

lemma Slots.next_none (h : o.Slots) : o.duty o.next = none := by
  cases hd : o.duty o.next with
  | none => rfl
  | some d => exact absurd (h.fresh _ d hd) (Nat.lt_irrefl _)

lemma Halts.spawn (h : o.Halts) (hslots : o.Slots) (d : Duty)
    (hd : ∀ l, d = .link l → o.listener.running = true) : (o.spawn d).Halts := by
  have hnext := hslots.next_none
  have hcancelled := hslots.cancelled
  cases h
  constructor
  all_goals simp only [Outline.spawn, IsLeft, IsCancelling, Function.update_apply] at *; grind

lemma Sockets.spawn (h : o.Sockets) (hslots : o.Slots) (d : Duty)
    (hd : ∀ l, d = .link l → ∀ s : Nat, o.closings[s]? ≠ some 0) : (o.spawn d).Sockets := by
  have hnext := hslots.next_none
  cases h
  constructor
  all_goals simp only [Outline.spawn, IsCancelling, Function.update_apply] at *; grind

lemma Readings.spawn (h : o.Readings) (d : Duty) (hd : ∀ s, d ≠ .link (.reading s)) :
    (o.spawn d).Readings := by
  refine ⟨h.bound, fun j s hj => ?_, h.ends⟩
  simp only [Outline.spawn, Function.update_apply] at hj
  split_ifs at hj
  · exact absurd (Option.some.inj hj) (hd s)
  · exact h.going j s hj

lemma Ledger.spawn (h : o.Ledger fifo) (hslots : o.Slots) (d : Duty) :
    (o.spawn d).Ledger fifo := by
  refine { h with below := fun q hq => ?_ }
  have hne : q.1 ≠ o.next := h.notPending (by rw [hslots.next_none]; simp) q hq
  exact (Function.update_of_ne hne _ _).trans (h.below q hq)

/-- The heartbeat of a connection begins. -/
lemma Sound.startBeat (h : o.Sound fifo) (hi : o.duty i = some (.link (.reading s)))
    (hphase : o.listener.phase = .connected) :
    Sound fifo { o.spawn .beat with
      listener := { o.listener with heartbeat := some o.next } } := by
  obtain ⟨hslots, hphases, hhalts, hsockets, hreadings, hledger⟩ := h
  have hspawn := hhalts.spawn hslots .beat (by simp)
  -- without a wish to run, the connection is being cancelled
  have hcancelling : o.listener.running = false → o.IsCancelling := by
    intro hrunning
    obtain ⟨rest, hrest, -⟩ := hhalts.remaining i _ hrunning hi
    exact ⟨rest, hrest⟩
  refine ⟨?_, ?_, ?_, ?_, ?_, ?_⟩
  · cases hslots
    constructor
    all_goals simp only [spawn, Function.update_apply] at *; grind
  · have hsingle := hslots.single
    have hnext := hslots.next_none
    cases hphases
    constructor
    all_goals simp only [spawn, Function.update_apply] at *; grind
  · exact { hspawn with quiet := fun hrunning hnot => absurd (hcancelling hrunning) hnot }
  · exact { hsockets.spawn hslots .beat (by simp) with }
  · exact { hreadings.spawn .beat (by simp) with }
  · exact { hledger.spawn hslots .beat with }

/-- A task that has nothing to do with the connection begins. -/
lemma Sound.spawnAside (h : o.Sound fifo) : (o.spawn .aside).Sound fifo := by
  obtain ⟨hslots, hphases, hhalts, hsockets, hreadings, hledger⟩ := h
  refine ⟨?_, ?_, hhalts.spawn hslots .aside (by simp), hsockets.spawn hslots .aside (by simp),
    hreadings.spawn .aside (by simp), hledger.spawn hslots .aside⟩
  · cases hslots
    constructor
    all_goals simp only [spawn, Function.update_apply] at *; grind
  · cases hslots
    cases hphases
    constructor
    all_goals simp only [spawn, Function.update_apply] at *; grind

/-! ## A task ends -/

/-- A task ends that is no pending frame; one that reads ends only because it was cancelled. -/
lemma Sound.leave (h : o.Sound fifo) (hi : o.duty i = some d) (hd : d ≠ .party)
    (hread : ∀ s, d = .link (.reading s) → o.cancelled i = true)
    (hpending : ∀ q ∈ o.pending, q.1 ≠ i) : (o.leave i).Sound fifo := by
  obtain ⟨hslots, hphases, hhalts, hsockets, hreadings, hledger⟩ := h
  refine ⟨?_, ?_, ?_, ?_, ?_, { hledger.update hpending none with }⟩
  · cases hslots
    constructor
    all_goals simp only [Outline.leave, Function.update_apply] at *; grind
  · cases hphases
    constructor
    all_goals simp only [Outline.leave, Function.update_apply] at *; grind
  · cases hhalts
    constructor
    all_goals simp only [Outline.leave, IsLeft, IsCancelling, Function.update_apply] at *; grind
  · have := hhalts.awaited
    cases hsockets
    constructor
    all_goals simp only [Outline.leave, IsCancelling, Function.update_apply] at *; grind
  · refine ⟨hreadings.bound, fun j s hj => ?_, hreadings.ends⟩
    simp only [Outline.leave, Function.update_apply] at hj
    split_ifs at hj
    exact hreadings.going j s hj

/-! ## No connection -/

/-- No task has to do with the connection, and every socket is closed. -/
structure Free (fifo : Prop) (o : Outline) : Prop extends Sound fifo o where
  idle : ∀ i l, o.duty i ≠ some (.link l)
  closed : ∀ s : Nat, o.closings[s]? ≠ some 0

/-- When a connection ends that has no open socket, there is none. -/
lemma Sound.free_leave (h : o.Sound fifo) (hi : o.duty i = some (.link l))
    (hl : ∀ s, l ≠ .reading s) : (o.leave i).Free fifo := by
  have hleave := h.leave hi (by simp) (fun s e => absurd (Duty.link.inj e) (hl s))
    (h.ledger.notPending (by rw [hi]; simp))
  refine ⟨hleave, fun j l' hj => ?_, fun s hs => hl s (h.sockets.left s i l hs hi)⟩
  simp only [Outline.leave, Function.update_apply] at hj
  split_ifs at hj with hne
  exact hne (h.slots.single j i l' l hj hi)

/-- The heartbeat is cancelled, and the listener is disconnected. -/
lemma Free.disconnect (h : o.Free fifo) :
    Free fifo { o.cancel o.listener.heartbeat with
      listener := { o.listener with
        heartbeat := none, socket := none, phase := .disconnected } } := by
  obtain ⟨⟨hslots, hphases, hhalts, hsockets, hreadings, hledger⟩, hidle, hclosed⟩ := h
  refine ⟨⟨?_, ?_, ?_, ?_, { hreadings with }, { hledger with }⟩, hidle, hclosed⟩
  · refine { hslots with heartbeatBelow := by simp, beats := by simp, cancelled := fun i hi => ?_ }
    simp only [cancel] at hi ⊢
    split_ifs at hi with hheld
    · obtain ⟨d, hd⟩ := Option.isSome_iff_exists.1 hi
      exact .inl (hslots.beats i d hheld hd ▸ hd)
    · exact hslots.cancelled i hi
  · exact ⟨fun i hi => absurd hi (hidle i _), by simp, by simp, by simp⟩
  · exact { hhalts with
      awaited := fun i l _ hi => absurd hi (hidle i l), quiet := fun _ _ => rfl }
  · exact ⟨fun s hs => absurd hs (hclosed s), hsockets.kept, hsockets.left⟩

/-- The listener lets go of a pause that is over. -/
lemma Free.forget (h : o.Free fifo) :
    Free fifo { o with listener := { o.listener with reconnect := none } } := by
  obtain ⟨⟨hslots, hphases, hhalts, hsockets, hreadings, hledger⟩, hidle, hclosed⟩ := h
  refine ⟨⟨?_, { hphases with }, { hhalts with }, { hsockets with }, { hreadings with },
    { hledger with }⟩, hidle, hclosed⟩
  exact { hslots with
    reconnectBelow := by simp, pauses := by simp, reconnect := fun i hi => absurd hi (hidle i _) }

/-- A reconnect is scheduled. -/
lemma Free.schedule (h : o.Free fifo) (hrunning : o.listener.running = true)
    (hphase : o.listener.phase = .disconnected) (hheartbeat : o.listener.heartbeat = none)
    (n : Nat) :
    Sound fifo { o.spawn (.link .pausing) with
      listener := { o.listener with reconnectsScheduled := n, reconnect := some o.next } } := by
  obtain ⟨⟨hslots, hphases, hhalts, hsockets, hreadings, hledger⟩, hidle, hclosed⟩ := h
  refine ⟨?_, ?_, ?_, ?_, ?_, ?_⟩
  · cases hslots
    constructor
    all_goals simp only [spawn, Function.update_apply] at *; grind
  · cases hphases
    constructor
    all_goals simp only [spawn, Function.update_apply] at *; grind
  · exact { hhalts.spawn hslots _ fun _ _ => hrunning with }
  · exact { hsockets.spawn hslots _ fun _ _ => hclosed with }
  · exact { hreadings.spawn (.link .pausing) (by simp) with }
  · exact { hledger.spawn hslots (.link .pausing) with }

/-- A connection is begun. -/
lemma Free.dial (h : o.Free fifo) (hrunning : o.listener.running = true)
    (hheartbeat : o.listener.heartbeat = none) :
    Sound fifo { o.spawn (.link .connecting) with
      listener := { o.listener with connection := some o.next } } := by
  obtain ⟨⟨hslots, hphases, hhalts, hsockets, hreadings, hledger⟩, hidle, hclosed⟩ := h
  refine ⟨?_, ?_, ?_, ?_, ?_, ?_⟩
  · cases hslots
    constructor
    all_goals simp only [spawn, Function.update_apply] at *; grind
  · cases hphases
    constructor
    all_goals simp only [spawn, Function.update_apply] at *; grind
  · exact { hhalts.spawn hslots _ fun _ _ => hrunning with }
  · exact { hsockets.spawn hslots _ fun _ _ => hclosed with }
  · exact { hreadings.spawn (.link .connecting) (by simp) with }
  · exact { hledger.spawn hslots (.link .connecting) with }

/-! ## Messages -/

/-- A message was read on a socket. -/
def hear (s : Nat) (a : Arrival) (o : Outline) : Outline := { o with read := o.read ++ [(s, a)] }

lemma Readings.hear (h : o.Readings) (hs : s < o.closings.length)
    (hbefore : ∀ b ∈ o.read, b.1 = s → b.2.ends = false)
    (hgoing : ∀ j s', o.duty j = some (.link (.reading s')) → a.ends = false) :
    (o.hear s a).Readings := by
  refine ⟨fun b hb => ?_, fun j s' hj => ⟨(h.going j s' hj).1, fun b hb e => ?_⟩, ?_⟩
  · obtain hb | hb := List.mem_append.1 hb
    · exact h.bound b hb
    · cases List.mem_singleton.1 hb
      exact hs
  · obtain hb | hb := List.mem_append.1 hb
    · exact (h.going j s' hj).2 b hb e
    · cases List.mem_singleton.1 hb
      exact hgoing j s' hj
  · refine List.pairwise_append.2 ⟨h.ends, List.pairwise_singleton _ _, fun b hb c hc e => ?_⟩
    cases List.mem_singleton.1 hc
    exact hbefore b hb e

lemma Readings.hear_going (h : o.Readings) (hi : o.duty i = some (.link (.reading s)))
    (hends : a.ends = false) : (o.hear s a).Readings :=
  h.hear (h.going i s hi).1 (h.going i s hi).2 fun _ _ _ => hends

lemma Ledger.hear (h : o.Ledger fifo) (s : Nat) (hframe : a.frame? = none) :
    (o.hear s a).Ledger fifo := by
  have hframes : framesOf (o.hear s a).read = framesOf o.read := by
    rw [Outline.hear, framesOf_append, hframe, Option.toList_none, List.append_nil]
  exact { h with
    count := hframes ▸ h.count
    perm := by rw [dataFramesOf, hframes]; exact h.perm
    order := by rw [dataFramesOf, hframes]; exact h.order }

/-- A message that is no frame and ends nothing is read. -/
lemma Sound.hearControl (h : o.Sound fifo) (hi : o.duty i = some (.link (.reading s)))
    (hends : a.ends = false) (hframe : a.frame? = none) : (o.hear s a).Sound fifo := by
  obtain ⟨hslots, hphases, hhalts, hsockets, hreadings, hledger⟩ := h
  exact ⟨{ hslots with }, { hphases with }, { hhalts with }, { hsockets with },
    hreadings.hear_going hi hends, hledger.hear s hframe⟩

/-- A heartbeat is read, and counted. -/
lemma Sound.hearHeartbeat (h : o.Sound fifo) (hi : o.duty i = some (.link (.reading s)))
    (hp : p.isHeartbeat = true) :
    Sound fifo { o.hear s (.message (.frame p)) with
      listener := { o.listener with framesReceived := o.listener.framesReceived + 1 } } := by
  obtain ⟨hslots, hphases, hhalts, hsockets, hreadings, hledger⟩ := h
  refine ⟨{ hslots with }, { hphases with }, { hhalts with }, { hsockets with },
    { hreadings.hear_going hi rfl with }, ?_⟩
  have hdata : dataFramesOf (o.read ++ [(s, .message (.frame p))]) = dataFramesOf o.read := by
    simp [dataFramesOf_append, Arrival.frame?, hp]
  refine { hledger with count := ?_, perm := hdata ▸ hledger.perm, order := hdata ▸ hledger.order }
  simp [hear, framesOf_append, Arrival.frame?, hledger.count]

/-- Any other frame is read: it is counted, and has a task of its own that is pending. -/
lemma Sound.hearFrame (h : o.Sound fifo) (hi : o.duty i = some (.link (.reading s)))
    (hp : p.isHeartbeat = false) (events : List TaskId) :
    Sound fifo { (o.hear s (.message (.frame p))).spawn .aside with
      listener := { o.listener with framesReceived := o.listener.framesReceived + 1, events }
      pending := o.pending ++ [(o.next, p)] } := by
  have hnext := h.slots.next_none
  have haside := h.spawnAside
  have hne : ∀ q ∈ o.pending, q.1 ≠ o.next := h.ledger.notPending (by rw [hnext]; simp)
  obtain ⟨hslots, hphases, hhalts, hsockets, hreadings, hledger⟩ := haside
  have hi' : (o.spawn .aside).duty i = some (.link (.reading s)) := by
    have : i ≠ o.next := by
      rintro rfl
      rw [hnext] at hi
      cases hi
    exact (Function.update_of_ne this _ _).trans hi
  refine ⟨{ hslots with }, { hphases with }, { hhalts with }, { hsockets with },
    { hreadings.hear_going hi' rfl with }, ?_⟩
  have hdata :
      dataFramesOf (o.read ++ [(s, .message (.frame p))]) = dataFramesOf o.read ++ [p] := by
    simp [dataFramesOf_append, Arrival.frame?, hp]
  have hframes : o.received ++ (o.pending ++ [(o.next, p)]).map Prod.snd =
      (o.received ++ o.pending.map Prod.snd) ++ [p] := by simp
  refine ⟨?_, fun q hq => ?_, ?_, ?_, fun hfifo => ?_⟩
  · simp [hear, framesOf_append, Arrival.frame?, h.ledger.count, spawn]
  · obtain hq | hq := List.mem_append.1 hq
    · exact hledger.below q hq
    · cases List.mem_singleton.1 hq
      exact Function.update_self _ _ _
  · rw [List.map_append]
    refine List.nodup_append.2 ⟨h.ledger.nodup, List.pairwise_singleton _ _, fun k hk k' hk' => ?_⟩
    obtain ⟨q, hq, rfl⟩ := List.mem_map.1 hk
    cases List.mem_singleton.1 hk'
    exact hne q hq
  · have hperm := h.ledger.perm.append_right [p]
    rw [← hdata, ← hframes] at hperm
    exact hperm
  · have horder := congrArg (· ++ [p]) (h.ledger.order hfifo)
    simp only [← hdata, ← hframes] at horder
    exact horder

/-- What ends the connection is read, and the socket is closed. -/
lemma Sound.close (h : o.Sound fifo) (hi : o.duty i = some (.link (.reading s)))
    (hends : a.ends = true) :
    Sound fifo { (o.hear s a).put i (.link .closing) with
      closings := o.closings.modify s (· + 1) } := by
  obtain ⟨hslots, hphases, hhalts, hsockets, hreadings, hledger⟩ := h
  have hclosed := closed_of_modify (s := s) fun s' hs' =>
    (Link.reading.inj (hsockets.left s' i _ hs' hi)).symm
  refine ⟨?_, ?_, ?_, ?_, ?_, ?_⟩
  · exact { hslots.put .closing hi (by simp) (by simp) with }
  · cases hphases
    constructor
    all_goals simp only [put, hear, Function.update_apply] at *; grind
  · exact { hhalts.put .closing hi with }
  · exact ⟨fun s hs => absurd hs (hclosed s), fun s hs => absurd hs (hclosed s),
      fun s _ _ hs => absurd hs (hclosed s)⟩
  · -- nobody reads any more
    have hnobody : ∀ j s', (o.put i (.link .closing)).duty j ≠ some (.link (.reading s')) := by
      intro j s' hj
      simp only [put, Function.update_apply] at hj
      split_ifs at hj with e
      · cases hj
      · exact e (hslots.single j i _ _ hj hi)
    have hhear := (hreadings.put (i := i) (.link .closing) (by simp)).hear (a := a)
      (hreadings.going i s hi).1 (hreadings.going i s hi).2 fun j s' hj => absurd hj (hnobody j s')
    refine ⟨fun b hb => ?_, fun j s' hj => absurd hj (hnobody j s'), hhear.ends⟩
    rw [List.length_modify]
    exact hhear.bound b hb
  · exact { (hledger.hear s (Arrival.frame?_of_ends hends)).put (i := i) (.link .closing)
      (by rw [hear, hi]; simp) with }

/-- The handling of a pending frame begins; if frames keep their order, it is the first one. -/
lemma Sound.begin (h : o.Sound fifo) {before after : List (TaskId × Payload)}
    (hpending : o.pending = before ++ (i, p) :: after) (hfirst : fifo → before = []) :
    Sound fifo { o.put i .aside with received := o.received ++ [p] } := by
  obtain ⟨hslots, hphases, hhalts, hsockets, hreadings, hledger⟩ := h
  have hi : o.duty i = some .aside := hledger.below (i, p) (by simp [hpending])
  have hnodup := hledger.nodup
  rw [hpending, List.map_append, List.map_cons, List.nodup_middle, ← List.map_append,
    List.nodup_cons] at hnodup
  have hfilter : o.pending.filter (fun q => q.1 ≠ i) = before ++ after := by
    rw [hpending, List.filter_append, List.filter_cons_of_neg (by simp), ← List.filter_append]
    exact List.filter_eq_self.2 fun q hq =>
      decide_eq_true fun e => hnodup.1 (List.mem_map.2 ⟨q, hq, e⟩)
  have heq : ({ o.put i .aside with received := o.received ++ [p] } : Outline) =
      { o with pending := before ++ after, received := o.received ++ [p] } := by
    rw [put, hfilter, ← hi, Function.update_eq_self]
  rw [heq]
  refine ⟨{ hslots with }, { hphases with }, { hhalts with }, { hsockets with },
    { hreadings with }, hledger.count, fun q hq => hledger.below q ?_, ?_, ?_, fun hfifo => ?_⟩
  · rw [hpending]
    obtain hq | hq := List.mem_append.1 hq
    · exact List.mem_append_left _ hq
    · exact List.mem_append_right _ (List.mem_cons_of_mem _ hq)
  · exact hnodup.2
  · refine List.Perm.trans ?_ hledger.perm
    rw [hpending, List.append_assoc, List.map_append, List.map_append, List.map_cons,
      List.singleton_append]
    exact List.perm_middle.symm.append_left o.received
  · have horder := hledger.order hfifo
    rw [hpending, hfirst hfifo] at horder
    rw [hfirst hfifo, List.append_assoc]
    exact horder

/-! ## Starting and stopping -/

/-- While the party outside is awake and the listener is not running, there is no connection, and
the listener may run. -/
lemma Sound.start (h : Sound fifo o) (hawake : o.isAwake = true)
    (hrunning : o.listener.running = false) :
    Free fifo { o with listener := { o.listener with running := true } } ∧
      o.listener.heartbeat = none := by
  obtain ⟨hslots, hphases, hhalts, hsockets, hreadings, hledger⟩ := h
  have hstops := hhalts.stops
  have hremaining := hhalts.remaining
  have hquiet := hhalts.quiet
  have hkept := hsockets.kept
  simp only [IsLeft, IsCancelling] at hremaining hquiet hkept
  refine ⟨⟨⟨{ hslots with }, { hphases with }, ?_, { hsockets with }, { hreadings with },
    { hledger with }⟩, ?_, ?_⟩, ?_⟩
  · cases hhalts
    constructor
    all_goals simp only [IsLeft, IsCancelling] at *; grind
  all_goals grind

/-- Stopping begins: what the slots hold is to be cancelled. -/
lemma Sound.stop (h : Sound fifo o) (hawake : o.isAwake = true) :
    Sound fifo { o with
      listener := { o.listener with running := false }
      stopping := some (.cancelling ([o.listener.reconnect, o.listener.heartbeat,
        o.listener.connection].filterMap id))
      awaited := none, isAwake := false } := by
  obtain ⟨hslots, hphases, hhalts, hsockets, hreadings, hledger⟩ := h
  refine ⟨{ hslots with }, { hphases with }, ?_, ?_, { hreadings with }, { hledger with }⟩
  · -- a task of the connection is in a slot, so it is among those to be cancelled
    cases hslots
    cases hhalts
    constructor
    all_goals simp only [IsLeft, IsCancelling, id] at *; grind
  · cases hsockets
    constructor
    all_goals simp only [IsCancelling] at *; grind

/-- A task that is done need not be cancelled. -/
lemma Sound.skip (h : Sound fifo o) (hstopping : o.stopping = some (.cancelling (j :: rest)))
    (hj : o.duty j = none) : Sound fifo { o with stopping := some (.cancelling rest) } := by
  obtain ⟨hslots, hphases, hhalts, hsockets, hreadings, hledger⟩ := h
  refine ⟨{ hslots with }, { hphases with }, ?_, ?_, { hreadings with }, { hledger with }⟩
  · cases hhalts
    constructor
    all_goals simp only [IsLeft, IsCancelling] at *; grind
  · cases hsockets
    constructor
    all_goals simp only [IsCancelling] at *; grind

/-- The next task is cancelled, and its end is awaited. -/
lemma Sound.cancelNext (h : Sound fifo o) (hstopping : o.stopping = some (.cancelling (j :: rest)))
    (hawaited : o.awaited = none) (hj : o.duty j = some d) :
    Sound fifo { o.cancel (some j) with
      awaited := some j, stopping := some (.cancelling rest), isAwake := false } := by
  obtain ⟨hslots, hphases, hhalts, hsockets, hreadings, hledger⟩ := h
  have hlisted := hhalts.listed _ j d hstopping List.mem_cons_self hj
  refine ⟨?_, { hphases with }, ?_, ?_, { hreadings with }, { hledger with }⟩
  · cases hslots
    constructor
    all_goals simp only [Outline.cancel] at *; grind
  · cases hhalts
    constructor
    all_goals simp only [Outline.cancel, IsLeft, IsCancelling] at *; grind
  · cases hsockets
    constructor
    all_goals simp only [Outline.cancel, IsCancelling] at *; grind

/-- All tasks are done, and the slots are emptied. -/
lemma Sound.release (h : Sound fifo o) (hstopping : o.stopping = some (.cancelling []))
    (hawaited : o.awaited = none) :
    Sound fifo { o with
      listener := { o.listener with reconnect := none, heartbeat := none, connection := none } } ∧
      ∀ i l, o.duty i ≠ some (.link l) := by
  obtain ⟨hslots, hphases, hhalts, hsockets, hreadings, hledger⟩ := h
  have hidle : ∀ i l, o.duty i ≠ some (.link l) := by
    have := hhalts.stops
    have := hhalts.remaining
    simp only [IsLeft] at this
    grind
  refine ⟨⟨?_, ?_, ?_, { hsockets with }, { hreadings with }, { hledger with }⟩, hidle⟩
  · cases hslots
    constructor
    all_goals grind
  · constructor
    all_goals grind
  · cases hhalts
    constructor
    all_goals simp only [IsLeft, IsCancelling] at *; grind

/-- The socket is closed, if there is one. -/
lemma Sound.closeSocket (h : o.Sound fifo) (hstopping : o.stopping = some (.cancelling []))
    (hidle : ∀ i l, o.duty i ≠ some (.link l)) (hheartbeat : o.listener.heartbeat = none)
    (closings : List Nat) (hlength : closings.length = o.closings.length)
    (hclosed : ∀ s : Nat, closings[s]? ≠ some 0) (f : Option Failure) :
    Sound fifo { o with closings, stopping := some (.closing f), isAwake := false } := by
  obtain ⟨hslots, hphases, hhalts, hsockets, hreadings, hledger⟩ := h
  refine ⟨{ hslots with }, { hphases with }, ?_, ?_, ?_, { hledger with }⟩
  · have hstops := hhalts.stops _ hstopping
    exact ⟨fun i l _ hi => absurd hi (hidle i l), fun i l _ hi => absurd hi (hidle i l),
      fun _ _ => hheartbeat, fun s hs => ⟨hstops.1, rfl, by cases hs; simp⟩, by simp, by simp⟩
  · exact ⟨fun s hs => absurd hs (hclosed s), fun s hs => absurd hs (hclosed s),
      fun s _ _ hs => absurd hs (hclosed s)⟩
  · refine ⟨fun b hb => ?_, fun j s hj => absurd hj (hidle j _), hreadings.ends⟩
    exact hlength ▸ hreadings.bound b hb

/-- The listener lets go of a socket that is closed. -/
lemma Sound.letGo (h : Sound fifo o) (hstopping : o.stopping = some (.closing f)) :
    Sound fifo { o with
      listener := { o.listener with socket := none }, stopping := some .draining } := by
  obtain ⟨hslots, hphases, hhalts, hsockets, hreadings, hledger⟩ := h
  have hstops := hhalts.stops
  have hremaining := hhalts.remaining
  simp only [IsLeft] at hremaining
  refine ⟨{ hslots with }, { hphases with }, ?_, ?_, { hreadings with }, { hledger with }⟩
  · cases hhalts
    constructor
    all_goals simp only [IsLeft, IsCancelling] at *; grind
  · cases hsockets
    constructor
    all_goals simp only [IsCancelling] at *; grind

/-- Stopping is over, for good or for a failure to close the socket. -/
lemma Sound.endStop (h : Sound fifo o) (hstopping : ∀ rest, o.stopping ≠ some (.cancelling rest))
    (awaited : Option TaskId) :
    Sound fifo { o with stopping := none, awaited, isAwake := true } := by
  obtain ⟨hslots, hphases, hhalts, hsockets, hreadings, hledger⟩ := h
  refine ⟨{ hslots with }, { hphases with }, ?_, ?_, { hreadings with }, { hledger with }⟩
  · cases hhalts
    constructor
    all_goals simp only [IsLeft, IsCancelling] at *; grind
  · cases hsockets
    constructor
    all_goals simp only [IsCancelling] at *; grind

/-- A listener that is stopped is not connected. -/
lemma Sound.stopped (h : Sound fifo o) (hstopping : o.stopping = some .draining) :
    Sound fifo { o with
      listener := { o.listener with hasSession := false, phase := .disconnected } } := by
  obtain ⟨hslots, hphases, hhalts, hsockets, hreadings, hledger⟩ := h
  refine ⟨{ hslots with }, ?_, { hhalts with }, { hsockets with }, { hreadings with },
    { hledger with }⟩
  have hstops := hhalts.stops
  have hquiet := hhalts.quiet
  simp only [IsCancelling] at hquiet
  cases hphases
  constructor
  all_goals grind

/-- The party outside goes to sleep, or waits for the end of a task. -/
lemma Sound.sleep (h : Sound fifo o) (hawake : o.isAwake = true) (awaited : Option TaskId) :
    Sound fifo { o with awaited, isAwake := false } := by
  obtain ⟨hslots, hphases, hhalts, hsockets, hreadings, hledger⟩ := h
  refine ⟨{ hslots with }, { hphases with }, ?_, { hsockets with }, { hreadings with },
    { hledger with }⟩
  cases hhalts
  constructor
  all_goals simp only [IsLeft, IsCancelling] at *; grind

/-- The party outside wakes up. -/
lemma Sound.wake (h : Sound fifo o) (hstopping : o.stopping = none) :
    Sound fifo { o with isAwake := true } := by
  obtain ⟨hslots, hphases, hhalts, hsockets, hreadings, hledger⟩ := h
  refine ⟨{ hslots with }, { hphases with }, ?_, { hsockets with }, { hreadings with },
    { hledger with }⟩
  cases hhalts
  constructor
  all_goals simp only [IsLeft, IsCancelling] at *; grind

end Outline

end FeedWatch
