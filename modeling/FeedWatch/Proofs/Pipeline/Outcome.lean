import FeedWatch.Pipeline
import Mathlib.Tactic.Common

/-!
# How handling ends

Handling a frame goes from wait to wait.  Up to the next wait it either counts nothing, and then it
waits or ends in an error, or it ends and counts the frame under one heading.  `Stats.Leads` lists
what a decoded event can come to, and `Stats.Admits` what a frame can come to.  Main statements:
every stage of handling keeps to them (`Pipeline.admits_receive`, `Pipeline.ledFrom_resume`).
-/

namespace FeedWatch

/-- What handling a decoded event does to the counts up to its next wait: it waits or ends in an
error, or it ends and counts the event under one heading. -/
inductive Stats.Leads (s : Stats) : Stats → Progress → Prop where
  | waits {delay : Nat} {stage : Stage} : Leads s s (.wait delay stage)
  | unfilled {e : Text.TemplateError} : Leads s s (.done (.error (.template e)))
  | interrupted : Leads s s (.done (.error .interrupted))
  | suppressed : Leads s { s with suppressed := s.suppressed + 1 } (.done (.ok none))
  | unmatched : Leads s { s with unmatched := s.unmatched + 1 } (.done (.ok none))
  | dispatched {a : Alert} : Leads s { s with dispatched := s.dispatched + 1 } (.done (.ok (some a)))
  | undelivered : Leads s { s with deliveryErrors := s.deliveryErrors + 1 } (.done (.ok none))

/-- A frame that is counted as one: it is no heartbeat, and alerts are on. -/
structure Registry.Takes (r : Registry) (payload : Payload) : Prop where
  notHeartbeat : payload.isHeartbeat = false
  enabled : r.settings.enabled = true

/-- What handling a frame does to the counts up to its first wait: a frame that holds no event is
dropped, unless one of its numbers cannot be held. -/
inductive Stats.Admits (r : Registry) (payload : Payload) (s : Stats) : Stats → Progress → Prop where
  | heartbeat (h : payload.isHeartbeat = true) :
    Admits r payload s { s with heartbeats := s.heartbeats + 1 } (.done (.ok none))
  | ignored (h : r.settings.enabled = false) : Admits r payload s s (.done (.ok none))
  | malformed {err : FrameError} (htakes : r.Takes payload) (h : Event.ofFrame payload = .error err)
    (hrejection : err.isRejection = true) : Admits r payload s
      { s with frames := s.frames + 1, malformed := s.malformed + 1 } (.done (.ok none))
  | unheld {err : FrameError} (htakes : r.Takes payload) (h : Event.ofFrame payload = .error err)
    (hrejection : err.isRejection = false) : Admits r payload s
      { s with frames := s.frames + 1 } (.done (.error (.frame err)))
  | event {e : Event} {t : Stats} {progress : Progress} (htakes : r.Takes payload)
    (h : Event.ofFrame payload = .ok e)
    (hleads : Stats.Leads { s with frames := s.frames + 1 } t progress) :
    Admits r payload s t progress

namespace Stats

variable {registry : Registry} {payload : Payload} {s t : Stats}

/-- Handling an event ends in no error of decoding. -/
lemma Leads.ne_frame {progress : Progress} (h : s.Leads t progress) (err : FrameError) :
    progress ≠ .done (.error (.frame err)) := by
  rintro rfl
  cases h

/-- An error of decoding is about a frame that cannot be held. -/
lemma Admits.unheld_of_frame {err : FrameError}
    (h : s.Admits registry payload t (.done (.error (.frame err)))) :
    Event.ofFrame payload = .error err ∧ err.isRejection = false := by
  cases h with
  | unheld _ herr hunheld => exact ⟨herr, hunheld⟩
  | event _ _ hleads => exact absurd rfl (hleads.ne_frame err)

end Stats

namespace Pipeline

variable {registry : Registry} {epoch : Int} {now : Nat} {p : Pipeline} {a : Alert} {e : Event}
variable {payload : Payload} {err : FrameError}

/-- The pipeline when it has noted and counted a frame. -/
def counted (payload : Payload) (p : Pipeline) : Pipeline :=
  { p with received := p.received ++ [payload] }.count fun s => { s with frames := s.frames + 1 }

/-- What a step of handling an event leaves comes from these counts. -/
def LedFrom (r : Pipeline × Progress) (s : Stats) : Prop := s.Leads r.1.stats r.2

lemma ledFrom_concluded (success : Bool) : LedFrom (p.concluded a success) p.stats := by
  cases success with
  | true => exact .dispatched
  | false => exact .undelivered

lemma ledFrom_onReply (d : Delivery) (attempt : Nat) (reply : Http.Reply) :
    LedFrom (p.onReply now d a attempt reply) p.stats := by
  rw [onReply]
  split
  · exact ledFrom_concluded _
  · exact .waits
  · exact .interrupted
  · exact .undelivered

lemma ledFrom_attemptPost (d : Delivery) (attempt : Nat) :
    LedFrom (p.attemptPost now d a attempt) p.stats := by
  simp only [attemptPost]
  split
  · exact ledFrom_onReply _ _ _
  · exact .waits

lemma ledFrom_deliver : LedFrom (p.deliver now a) p.stats := by
  simp only [deliver]
  split
  · exact .dispatched
  · exact ledFrom_concluded _
  · split_ifs
    · exact .undelivered
    · exact .undelivered
    · exact ledFrom_attemptPost _ _

lemma ledFrom_onLabel (filters : List Filter) (label : Option String) (interrupted : Bool) :
    LedFrom (p.onLabel registry epoch now e filters label interrupted) p.stats := by
  rw [onLabel]
  split_ifs
  · exact .interrupted
  · rw [compose]
    split
    · exact .unfilled
    · exact ledFrom_deliver

lemma stats_ask (owner : String) : (p.ask now owner).1.stats = p.stats := by
  rw [ask]
  split
  · rfl
  · rfl
  · dsimp only
    split
    · rfl
    · split
      · rfl
      · rfl

/-- A decoded event is counted under one heading once it is done with. -/
lemma ledFrom_handleEvent : LedFrom (p.handleEvent registry epoch now e) p.stats := by
  rw [handleEvent]
  split_ifs
  · exact .suppressed
  · dsimp only
    split_ifs
    · exact .unmatched
    · rw [← stats_ask e.item.owner]
      exact ledFrom_onLabel _ _ _
    · rw [← stats_ask e.item.owner]
      exact .waits

/-- After a wait, handling goes on as before. -/
lemma ledFrom_resume (s : Stage) : LedFrom (p.resume registry epoch now s) p.stats := by
  rw [resume.eq_def]
  split
  · exact ledFrom_onLabel _ _ _
  · split
    · exact ledFrom_onReply _ _ _
    · exact .undelivered
  · split
    · exact ledFrom_attemptPost _ _
    · exact .undelivered

/-! ## Frames that are taken -/

lemma receive_of_event (htakes : registry.Takes payload)
    (he : Event.ofFrame payload = .ok e) : p.receive registry epoch now payload =
      (p.counted payload).handleEvent registry epoch now e := by
  simp only [receive, htakes.notHeartbeat, htakes.enabled, he, Bool.not_true, Bool.false_eq_true,
    if_false]
  rfl

lemma receive_of_rejection (htakes : registry.Takes payload)
    (herr : Event.ofFrame payload = .error err) (hrejection : err.isRejection = true) :
    p.receive registry epoch now payload =
      ((p.counted payload).count fun s => { s with malformed := s.malformed + 1 },
        .done (.ok none)) := by
  simp only [receive, htakes.notHeartbeat, htakes.enabled, herr, hrejection, Bool.not_true,
    Bool.false_eq_true, if_false, if_true]
  rfl

lemma receive_of_unheld (htakes : registry.Takes payload)
    (herr : Event.ofFrame payload = .error err) (hunheld : err.isRejection = false) :
    p.receive registry epoch now payload = (p.counted payload, .done (.error (.frame err))) := by
  simp only [receive, htakes.notHeartbeat, htakes.enabled, herr, hunheld, Bool.not_true,
    Bool.false_eq_true, if_false]
  rfl

/-- A frame is not taken, or it is dropped, or it cannot be held, or it is an event. -/
lemma admits_receive (p : Pipeline) (registry : Registry) (epoch : Int) (now : Nat)
    (payload : Payload) : p.stats.Admits registry payload
      (p.receive registry epoch now payload).1.stats (p.receive registry epoch now payload).2 := by
  cases hheartbeat : payload.isHeartbeat with
  | true =>
    rw [receive]
    simp only [hheartbeat, if_true]
    exact .heartbeat hheartbeat
  | false =>
    cases henabled : registry.settings.enabled with
    | false =>
      rw [receive]
      simp only [hheartbeat, henabled, Bool.not_false, Bool.false_eq_true, if_false, if_true]
      exact .ignored henabled
    | true =>
      have htakes : registry.Takes payload := ⟨hheartbeat, henabled⟩
      cases hframe : Event.ofFrame payload with
      | ok e =>
        rw [receive_of_event htakes hframe]
        have hleads : LedFrom ((p.counted payload).handleEvent registry epoch now e)
          (p.counted payload).stats := ledFrom_handleEvent
        exact .event htakes hframe hleads
      | error err =>
        cases hrejection : err.isRejection with
        | true =>
          rw [receive_of_rejection htakes hframe hrejection]
          exact .malformed htakes hframe hrejection
        | false =>
          rw [receive_of_unheld htakes hframe hrejection]
          exact .unheld htakes hframe hrejection

end Pipeline

end FeedWatch
