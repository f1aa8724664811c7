import FeedWatch.Engine.Heap
import FeedWatch.Number.Binary64

/-!
# The schedule

What happens next is a queue of calls, first come first served, and a heap of timers.  Calls are
made in rounds: a round begins with the calls that are in the queue and those of the timers that are
due, and calls that come up meanwhile belong to the next one.  The clock moves only when a round
would have no calls otherwise, and then to the earliest timer.

A timer that is called off stays in the heap until it comes up, or until there are more than a
hundred timers and most of them are called off.  Times are in seconds.
-/

namespace FeedWatch

/-- The number of a task. -/
abbrev TaskId := Nat

/-- What happens when a timer has gone off. -/
inductive Alarm
  /-- A task that waits for the timer joins the queue. -/
  | ring (task : TaskId) (timer : Nat)
  /-- The outside party is released from watching. -/
  | release
  /-- The user asks for the end. -/
  | request
deriving DecidableEq

/-- A call that stands in the queue. -/
inductive Call
  /-- A task takes its turn. -/
  | turn (task : TaskId)
  /-- A timer has gone off. -/
  | alarm (a : Alarm)
  /-- The task of a frame is done, and the listener that started it lets go of it. -/
  | settled (station : Nat) (task : TaskId)
  /-- One of the tasks that the outside party waits for is done. -/
  | gathered (task : TaskId)
deriving DecidableEq

/-- A timer in the heap. -/
structure Timer where
  number : Nat
  due : Binary64
  alarm : Alarm
  isCalledOff : Bool

/-- Whether a timer is due before another. -/
def Timer.before (a b : Timer) : Bool := a.due.isBelow b.due

/-- The clock, the queue with the number of calls in it that belong to the round, the timers, and
how many of them are known to be called off. -/
structure Schedule where
  now : Binary64
  queue : List Call
  left : Nat
  timers : Array Timer
  nextTimer : Nat
  calledOff : Nat

namespace Schedule

/-- Nothing is planned. -/
def start : Schedule :=
  { now := .zero false, queue := [], left := 0, timers := #[], nextTimer := 0, calledOff := 0 }

/-- Adds a call at the end of the queue. -/
def enqueue (c : Call) (s : Schedule) : Schedule := { s with queue := s.queue ++ [c] }

/-- Sets a timer; its number is `s.nextTimer`. -/
def setTimer (delay : Binary64) (a : Alarm) (s : Schedule) : Schedule :=
  let timer : Timer :=
    { number := s.nextTimer, due := s.now.add delay, alarm := a, isCalledOff := false }
  { s with timers := Heap.push Timer.before timer s.timers, nextTimer := s.nextTimer + 1 }

/-- Calls a timer off, if it has not gone off. -/
def callOff (number : Nat) (s : Schedule) : Schedule :=
  if s.timers.any fun t => t.number == number && !t.isCalledOff then
    { s with
      timers := s.timers.map fun t =>
        if t.number == number then { t with isCalledOff := true } else t
      calledOff := s.calledOff + 1 }
  else s

/-- Drops timers that are called off from the front of the heap, at most `fuel` of them. -/
def dropFront : Nat → Schedule → Schedule
  | 0, s => s
  | fuel + 1, s =>
    match Heap.pop? Timer.before s.timers with
    | some (t, rest) =>
      if t.isCalledOff then dropFront fuel { s with timers := rest, calledOff := s.calledOff - 1 }
      else s
    | none => s

/-- The number of timers from which on those called off are counted. -/
def crowd : Nat := 100

/-- Drops timers that are called off. -/
def tidy (s : Schedule) : Schedule :=
  if crowd < s.timers.size && s.timers.size < 2 * s.calledOff then
    { s with
      timers := Heap.ofArray Timer.before (s.timers.filter fun t => !t.isCalledOff)
      calledOff := 0 }
  else dropFront s.timers.size s

/-- The clock moves to the earliest timer. -/
def moveClock (s : Schedule) : Schedule :=
  match s.timers[0]? with
  | some t => if s.now.isBelow t.due && t.due.isFinite then { s with now := t.due } else s
  | none => s

/-- How close to the clock a timer is due. -/
def grain : Binary64 := .ofDecimal false 1 (-9)

/-- The alarms of the timers that are due before a time, which leave the heap; at most `fuel`. -/
def popDue (time : Binary64) : Nat → Array Timer → List Alarm × Array Timer
  | 0, timers => ([], timers)
  | fuel + 1, timers =>
    match Heap.pop? Timer.before timers with
    | none => ([], timers)
    | some (t, rest) =>
      if t.due.isBelow time || t.due = .nan then
        let (alarms, timers) := popDue time fuel rest
        (t.alarm :: alarms, timers)
      else ([], timers)

/-- Begins a round; the clock moves only if it may. -/
def beginRound (mayMove : Bool) (s : Schedule) : Schedule :=
  let s := s.tidy
  let s := if s.queue.isEmpty && mayMove then s.moveClock else s
  let (alarms, timers) := popDue (s.now.add grain) s.timers.size s.timers
  let queue := s.queue ++ alarms.map .alarm
  { s with queue, timers, left := queue.length }

/-- The next call, if there is one before the clock would have to move against the will. -/
def next? (mayMove : Bool) (s : Schedule) : Option (Call × Schedule) :=
  let s := if s.left = 0 then s.beginRound mayMove else s
  match s.queue with
  | [] => none
  | c :: rest => some (c, { s with queue := rest, left := s.left - 1 })

end Schedule

end FeedWatch
