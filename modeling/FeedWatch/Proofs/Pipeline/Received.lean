import FeedWatch.Pipeline
import Mathlib.Tactic.Common

/-!
# A frame is received once

Handling a frame begins with `Pipeline.receive`, which notes the frame; nothing later does.  It is
also where the frame is decoded and matched against the filters: what handling goes on with after
its first wait holds the event and the filters that accept its item.
-/

namespace FeedWatch

/-- The frame is decoded and matched: a wait for the owner's name has the event and the filters that
accept its item, and a wait for a delivery needs neither. -/
def Stage.IsDecided (registry : Registry) (payload : Payload) : Stage → Prop
  | labelled e filters _ _ => Event.ofFrame payload = .ok e ∧ filters = registry.accepting e.item
  | replied _ _ _ | retrying _ _ => True

namespace Pipeline

variable {registry : Registry} {epoch : Int} {now : Nat} {p : Pipeline} {a : Alert} {e : Event}
variable {payload : Payload}

/-! ## Nothing else is noted -/

lemma received_concluded (success : Bool) : (p.concluded a success).1.received = p.received := by
  cases success with
  | true => rfl
  | false => rfl

lemma received_onReply (d : Delivery) (attempt : Nat) (reply : Http.Reply) :
    (p.onReply now d a attempt reply).1.received = p.received := by
  rw [onReply]
  split
  · exact received_concluded _
  · rfl
  · rfl
  · rfl

lemma received_attemptPost (d : Delivery) (attempt : Nat) :
    (p.attemptPost now d a attempt).1.received = p.received := by
  simp only [attemptPost]
  split
  · exact received_onReply _ _ _
  · rfl

lemma received_deliver : (p.deliver now a).1.received = p.received := by
  simp only [deliver]
  split
  · rfl
  · exact received_concluded _
  · split_ifs
    · rfl
    · rfl
    · exact received_attemptPost _ _

lemma received_onLabel (filters : List Filter) (label : Option String) (interrupted : Bool) :
    (p.onLabel registry epoch now e filters label interrupted).1.received = p.received := by
  rw [onLabel]
  split_ifs
  · rfl
  · rw [compose]
    split
    · rfl
    · exact received_deliver

lemma received_ask (owner : String) : (p.ask now owner).1.received = p.received := by
  rw [ask]
  split
  · rfl
  · rfl
  · dsimp only
    split
    · rfl
    · split
      · rfl
      · rfl

lemma received_handleEvent : (p.handleEvent registry epoch now e).1.received = p.received := by
  rw [handleEvent]
  split_ifs
  · rfl
  · dsimp only
    split_ifs
    · rfl
    · exact (received_onLabel _ _ _).trans (received_ask _)
    · exact received_ask _

/-- Handling a frame notes it. -/
lemma received_receive :
    (p.receive registry epoch now payload).1.received = p.received ++ [payload] := by
  rw [receive]
  dsimp only
  split_ifs
  · rfl
  · rfl
  · split
    · exact received_handleEvent
    · split_ifs
      · rfl
      · rfl

/-- After a wait no frame is noted. -/
lemma received_resume (s : Stage) : (p.resume registry epoch now s).1.received = p.received := by
  rw [resume.eq_def]
  split
  · exact received_onLabel _ _ _
  · split
    · exact received_onReply _ _ _
    · rfl
  · split
    · exact received_attemptPost _ _
    · rfl

/-! ## Decoding and matching come before the first wait -/

lemma onReply_stage {d : Delivery} {attempt delay : Nat} {reply : Http.Reply} {s : Stage}
    (h : (p.onReply now d a attempt reply).2 = .wait delay s) : s.IsDecided registry payload := by
  rw [onReply] at h
  split at h
  · rw [concluded] at h
    split_ifs at h
    · cases h
    · cases h
  · cases h
    trivial
  · cases h
  · cases h

lemma deliver_stage {delay : Nat} {s : Stage} (h : (p.deliver now a).2 = .wait delay s) :
    s.IsDecided registry payload := by
  simp only [deliver] at h
  split at h
  · cases h
  · rw [concluded] at h
    split_ifs at h
    · cases h
    · cases h
  · split_ifs at h
    · cases h
    · cases h
    · simp only [attemptPost] at h
      split at h
      · exact onReply_stage h
      · cases h
        trivial

lemma handleEvent_stage {delay : Nat} {s : Stage} (he : Event.ofFrame payload = .ok e)
    (h : (p.handleEvent registry epoch now e).2 = .wait delay s) :
    s.IsDecided registry payload := by
  simp only [handleEvent] at h
  split_ifs at h
  · rw [onLabel] at h
    split_ifs at h
    rw [compose] at h
    split at h
    · cases h
    · exact deliver_stage h
  · cases h
    exact ⟨he, rfl⟩

/-- When handling a frame waits for the first time, the frame is decoded and matched. -/
lemma receive_stage {delay : Nat} {s : Stage}
    (h : (p.receive registry epoch now payload).2 = .wait delay s) :
    s.IsDecided registry payload := by
  simp only [receive] at h
  split at h
  · cases h
  · split at h
    · cases h
    · split at h
      · exact handleEvent_stage ‹_› h
      · split at h
        · cases h
        · cases h

end Pipeline

end FeedWatch
