import FeedWatch.Engine.Basic
import Mathlib.Data.List.Nodup
import Mathlib.Logic.Function.Basic
import Mathlib.Tactic.Common

/-!
# The listener in outline

Of all that goes on, the outline of a listener keeps what its connection depends on: the slots that
hold its tasks, what each task is there for, which tasks are cancelled, the sockets, the stage of
stopping, and what was read.  `Outline.Sound` tells what holds of an outline between two turns.

While a task has its turn, it is further on than its record says; `Outline.put` and `Outline.leave`
are the outlines in which it already is where it goes.
-/

namespace FeedWatch

/-! ## What is read -/

/-- The frame of a message, if it is one. -/
def Arrival.frame? : Arrival → Option Payload
  | message (.frame p) => some p
  | _ => none

/-- Whether nothing is read behind it: an error message, the end or a failure. -/
def Arrival.ends : Arrival → Bool
  | message (.frame _) | message .control => false
  | message .error | ended | failed _ => true

lemma Arrival.frame?_of_ends {a : Arrival} (h : a.ends = true) : a.frame? = none := by
  cases a with
  | message m =>
    cases m with
    | frame p => cases h
    | error => rfl
    | control => rfl
  | ended => rfl
  | failed f => rfl

/-- The frames that were read, in order. -/
def framesOf (read : List (Nat × Arrival)) : List Payload := read.filterMap fun a => a.2.frame?

/-- The frames that were read and are no heartbeats, in order. -/
def dataFramesOf (read : List (Nat × Arrival)) : List Payload :=
  (framesOf read).filter fun p => !p.isHeartbeat

lemma framesOf_append (read : List (Nat × Arrival)) (s : Nat) (a : Arrival) :
    framesOf (read ++ [(s, a)]) = framesOf read ++ a.frame?.toList := by
  rw [framesOf, List.filterMap_append, framesOf]
  cases h : a.frame? with
  | none => simp [h]
  | some p => simp [h]

lemma dataFramesOf_append (read : List (Nat × Arrival)) (s : Nat) (a : Arrival) :
    dataFramesOf (read ++ [(s, a)]) =
      dataFramesOf read ++ a.frame?.toList.filter fun p => !p.isHeartbeat := by
  rw [dataFramesOf, framesOf_append, List.filter_append]
  rfl

/-! ## Outlines -/

/-- Closing the only socket that is open leaves none open. -/
lemma closed_of_modify {closings : List Nat} {s : Nat}
    (h : ∀ s' : Nat, closings[s']? = some 0 → s' = s) (s' : Nat) :
    (closings.modify s (· + 1))[s']? ≠ some 0 := by
  intro hs'
  by_cases hne : s = s'
  · subst hne
    rw [List.getElem?_modify_eq] at hs'
    obtain ⟨n, -, hn⟩ := Option.map_eq_some_iff.1 hs'
    cases hn
  · rw [List.getElem?_modify_ne _ _ hne] at hs'
    exact hne (h s' hs').symm

/-- How far a task has come that makes, keeps or awaits a connection. -/
inductive Link
  | connecting
  | shaking
  | reading (socket : Nat)
  | closing
  | pausing

/-- What a task is there for: it is the party outside, it has to do with the connection, it is a
heartbeat, or none of these. -/
inductive Duty
  | party
  | link (l : Link)
  | beat
  | aside

/-- What a task is there for, by what it does next. -/
def Work.duty : Work → Duty
  | outside => .party
  | connect => .link .connecting
  | connected _ => .link .shaking
  | read socket => .link (.reading socket)
  | closed _ => .link .closing
  | rest _ | beat _ | sent _ _ => .beat
  | pause | reconnect => .link .pausing
  | receive _ | resume _ | idle | refresh | vigil => .aside

/-- A listener in outline.  `pending` holds the frames whose handling has not begun, with their
tasks, `closings` how often each socket was closed, and `awaited` the task whose end is awaited by
the party outside. -/
@[ext]
structure Outline where
  listener : Listener
  duty : TaskId → Option Duty
  cancelled : TaskId → Bool
  pending : List (TaskId × Payload)
  next : TaskId
  closings : List Nat
  read : List (Nat × Arrival)
  received : List Payload
  stopping : Option Stopping
  awaited : Option TaskId
  isAwake : Bool

namespace Outline

/-- A task goes on to a duty; if it is a frame, its handling has begun. -/
def put (i : TaskId) (d : Duty) (o : Outline) : Outline :=
  { o with
    duty := Function.update o.duty i (some d)
    pending := o.pending.filter fun q => q.1 ≠ i }

/-- A new task. -/
def spawn (d : Duty) (o : Outline) : Outline :=
  { o with duty := Function.update o.duty o.next (some d), next := o.next + 1 }

/-- A task ends. -/
def leave (i : TaskId) (o : Outline) : Outline :=
  { o with
    duty := Function.update o.duty i none
    cancelled := Function.update o.cancelled i false
    pending := o.pending.filter fun q => q.1 ≠ i
    awaited := if o.awaited = some i then none else o.awaited }

/-- The task in a slot, if there is one, is cancelled unless it is done. -/
def cancel (held : Option TaskId) (o : Outline) : Outline :=
  { o with cancelled := fun i => if held = some i then (o.duty i).isSome else o.cancelled i }

/-! ### Changes one after the other -/

lemma filter_filter_ne (pending : List (TaskId × Payload)) (i : TaskId) :
    ((pending.filter fun q => q.1 ≠ i).filter fun q => q.1 ≠ i) =
      pending.filter fun q => q.1 ≠ i := by
  rw [List.filter_filter]
  simp only [Bool.and_self]

@[simp]
lemma put_put (i : TaskId) (d d' : Duty) (o : Outline) : (o.put i d).put i d' = o.put i d' := by
  simp only [put, Function.update_idem, filter_filter_ne]

@[simp]
lemma put_leave (i : TaskId) (d : Duty) (o : Outline) : (o.put i d).leave i = o.leave i := by
  simp only [put, leave, Function.update_idem, filter_filter_ne]
  rfl

lemma spawn_put {i : TaskId} {o : Outline} (hi : i ≠ o.next) (d d' : Duty) :
    (o.spawn d').put i d = (o.put i d).spawn d' := by
  simp only [put, spawn, Function.update_comm hi.symm]

/-- A task goes on while the task of a frame begins. -/
lemma spawnFrame_put {i : TaskId} {o : Outline} (hi : i ≠ o.next) (d : Duty) (p : Payload) :
    ({ o.spawn .aside with pending := o.pending ++ [(o.next, p)] } : Outline).put i d =
      { (o.put i d).spawn .aside with pending := (o.put i d).pending ++ [(o.next, p)] } := by
  have hfilter : (o.pending ++ [(o.next, p)]).filter (fun q => q.1 ≠ i) =
      (o.pending.filter fun q => q.1 ≠ i) ++ [(o.next, p)] := by
    simp [hi.symm]
  simp only [put, spawn, hfilter, Function.update_comm hi.symm]

lemma spawn_leave {i : TaskId} {o : Outline} (hi : i ≠ o.next) (d : Duty) :
    (o.spawn d).leave i = (o.leave i).spawn d := by
  simp only [leave, spawn, Function.update_comm hi.symm]
  rfl

lemma cancel_leave (i : TaskId) (held : Option TaskId) (o : Outline) :
    (o.cancel held).leave i = (o.leave i).cancel held := by
  ext1
  case cancelled =>
    funext j
    simp only [leave, cancel, Function.update_apply]
    by_cases hj : j = i
    · simp [hj]
    · simp [hj]
  all_goals rfl

@[simp]
lemma cancel_none (o : Outline) : o.cancel none = o := by
  ext1
  case cancelled =>
    funext j
    simp [cancel]
  all_goals rfl

/-! ## Sound outlines -/

/-- Whether tasks are being cancelled one after the other. -/
def IsCancelling (o : Outline) : Prop := ∃ rest, o.stopping = some (.cancelling rest)

/-- Whether a task is among those that are being cancelled. -/
def IsLeft (i : TaskId) (o : Outline) : Prop :=
  ∃ rest, o.stopping = some (.cancelling rest) ∧ (i ∈ rest ∨ o.awaited = some i)

/-- The slots hold what belongs there, at most one task has to do with the connection, and a slot
holds it. -/
structure Slots (o : Outline) : Prop where
  party : o.duty Engine.outside = some .party
  parties : ∀ i, o.duty i = some .party → i = Engine.outside
  fresh : ∀ i d, o.duty i = some d → i < o.next
  connectionBelow : ∀ i, o.listener.connection = some i → i < o.next
  heartbeatBelow : ∀ i, o.listener.heartbeat = some i → i < o.next
  reconnectBelow : ∀ i, o.listener.reconnect = some i → i < o.next
  links : ∀ i d, o.listener.connection = some i → o.duty i = some d →
    ∃ l, d = .link l ∧ l ≠ .pausing
  beats : ∀ i d, o.listener.heartbeat = some i → o.duty i = some d → d = .beat
  pauses : ∀ i d, o.listener.reconnect = some i → o.duty i = some d → d = .link .pausing
  single : ∀ i j l l', o.duty i = some (.link l) → o.duty j = some (.link l') → i = j
  connection : ∀ i l, o.duty i = some (.link l) → l ≠ .pausing → o.listener.connection = some i
  reconnect : ∀ i, o.duty i = some (.link .pausing) → o.listener.reconnect = some i
  cancelled : ∀ i, o.cancelled i = true → o.duty i = some .beat ∨ ∃ l, o.duty i = some (.link l)

/-- The party outside is no heartbeat. -/
lemma Slots.ne_outside {i : TaskId} {o : Outline} (h : o.Slots)
    (hbeat : o.listener.heartbeat = some i) : i ≠ Engine.outside := by
  rintro rfl
  cases h.beats _ _ hbeat h.party

/-- The phase goes with the tasks: a pause means disconnected, and a heartbeat connected. -/
structure Phases (o : Outline) : Prop where
  pausing : ∀ i, o.duty i = some (.link .pausing) →
    o.listener.phase = .disconnected ∧ o.listener.heartbeat = none
  connecting : ∀ i h, o.duty i = some (.link .connecting) → o.listener.heartbeat = some h →
    o.duty h = none
  shaking : ∀ i h, o.duty i = some (.link .shaking) → o.listener.heartbeat = some h →
    o.duty h = none
  beating : ∀ h d, o.listener.heartbeat = some h → o.duty h = some d →
    o.listener.phase = .connected

/-- What stopping has still to do: every task of the connection is yet to be cancelled, or cancelled
and awaited. -/
structure Halts (o : Outline) : Prop where
  awaited : ∀ i l, o.cancelled i = true → o.duty i = some (.link l) →
    o.awaited = some i ∧ o.IsCancelling
  remaining : ∀ i l, o.listener.running = false → o.duty i = some (.link l) → o.IsLeft i
  quiet : o.listener.running = false → ¬ o.IsCancelling → o.listener.heartbeat = none
  stops : ∀ s, o.stopping = some s →
    o.listener.running = false ∧ o.isAwake = false ∧ s ≠ .refresher
  listedBelow : ∀ rest i, o.stopping = some (.cancelling rest) → i ∈ rest → i < o.next
  listed : ∀ rest i d, o.stopping = some (.cancelling rest) → i ∈ rest → o.duty i = some d →
    d = .beat ∨ ∃ l, d = .link l

/-- A socket that was not closed is the listener's, and is read unless tasks are being cancelled. -/
structure Sockets (o : Outline) : Prop where
  held : ∀ s, o.closings[s]? = some 0 → o.listener.socket = some s
  kept : ∀ s, o.closings[s]? = some 0 →
    o.IsCancelling ∨ ∃ i, o.duty i = some (.link (.reading s))
  left : ∀ s i l, o.closings[s]? = some 0 → o.duty i = some (.link l) → l = .reading s

/-- Nothing is read on a socket behind what ends it. -/
structure Readings (o : Outline) : Prop where
  bound : ∀ a ∈ o.read, a.1 < o.closings.length
  going : ∀ i s, o.duty i = some (.link (.reading s)) →
    s < o.closings.length ∧ ∀ a ∈ o.read, a.1 = s → a.2.ends = false
  ends : o.read.Pairwise fun a b => a.1 = b.1 → a.2.ends = false

/-- Every frame that was read is counted, and unless it is a heartbeat its handling has begun or is
pending; `fifo` says that frames are handled in the order of their tasks. -/
structure Ledger (fifo : Prop) (o : Outline) : Prop where
  count : o.listener.framesReceived = (framesOf o.read).length
  below : ∀ q ∈ o.pending, o.duty q.1 = some .aside
  nodup : (o.pending.map Prod.fst).Nodup
  perm : (o.received ++ o.pending.map Prod.snd).Perm (dataFramesOf o.read)
  order : fifo → o.received ++ o.pending.map Prod.snd = dataFramesOf o.read

/-- What holds of the outline between two turns. -/
structure Sound (fifo : Prop) (o : Outline) : Prop where
  slots : o.Slots
  phases : o.Phases
  halts : o.Halts
  sockets : o.Sockets
  readings : o.Readings
  ledger : o.Ledger fifo

variable {fifo : Prop}

/-- The outline before the first start of a listener: nobody is there but the party outside. -/
def initial (next : TaskId) (closings : List Nat) : Outline where
  listener := .initial
  duty i := if i = Engine.outside then some .party else none
  cancelled _ := false
  pending := []
  next
  closings
  read := []
  received := []
  stopping := none
  awaited := none
  isAwake := true

lemma sound_initial {next : TaskId} {closings : List Nat} (hnext : Engine.outside < next)
    (hclosed : ∀ s : Nat, closings[s]? ≠ some 0) : (initial next closings).Sound fifo := by
  refine ⟨?_, ?_, ?_, ?_, ?_, rfl, by simp [initial], .nil, .nil, fun _ => rfl⟩
  all_goals constructor
  all_goals simp only [initial, Listener.initial, IsCancelling, IsLeft]
  all_goals grind [Engine.outside]

end Outline

end FeedWatch
