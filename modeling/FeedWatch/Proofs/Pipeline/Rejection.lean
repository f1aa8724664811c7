import FeedWatch.Proofs.Event.Unbounded
import FeedWatch.Proofs.Pipeline.Outcome
import Mathlib

/-!
# Frames are handled or dropped

Decoding comes first, and from then on no error is about the frame any more.  Main statement: a
frame with nothing in it that is too large is decoded or rejected, so its event is handled, or it is
counted as malformed and dropped, and no error of decoding comes out of handling it
(`Pipeline.handle_of_isBounded`).  A number that cannot be held does come out
(`Pipeline.handle_of_unheld`).
-/

namespace FeedWatch

namespace Pipeline

variable {registry : Registry} {epoch : Int} {now fuel : Nat} {p : Pipeline} {payload : Payload}
variable {r : Pipeline × Progress} {err : FrameError}

/-- If a frame is decoded before the first wait, no later wait ends in an error of decoding. -/
lemma finish_ne_frame (h : ∀ err, r.2 ≠ .done (.error (.frame err))) :
    (finish registry epoch fuel now r).2 ≠ .error (.frame err) := by
  induction fuel generalizing now r with
  | zero =>
    obtain ⟨q, progress⟩ := r
    cases progress with
    | done result =>
      rintro rfl
      exact h err rfl
    | wait delay stage => nofun
  | succ fuel ih =>
    obtain ⟨q, progress⟩ := r
    cases progress with
    | done result =>
      rintro rfl
      exact h err rfl
    | wait delay stage => exact ih (Stats.Leads.ne_frame (ledFrom_resume stage))

/-- A frame with a number that cannot be held ends in the error of decoding it. -/
lemma handle_of_unheld (htakes : registry.Takes payload)
    (herr : Event.ofFrame payload = .error err) (hunheld : err.isRejection = false) :
    (p.handle registry epoch now payload).2 = .error (.frame err) := by
  rw [handle, receive_of_unheld htakes herr hunheld, finish]

/-- A frame with nothing in it that is too large holds an event or is rejected.  If it is taken, the
event is handled, or the frame is counted as malformed and dropped; and no error of decoding comes
out of handling it, nor out of what follows any wait. -/
theorem handle_of_isBounded (hbounded : payload.IsBounded) :
    ((∃ e, Event.ofFrame payload = .ok e) ∨
      ∃ err, Event.ofFrame payload = .error err ∧ err.isRejection = true) ∧
    ∀ (p : Pipeline) (registry : Registry) (epoch : Int) (now : Nat),
      (registry.Takes payload →
        (∃ e, Event.ofFrame payload = .ok e ∧ p.receive registry epoch now payload =
          (p.counted payload).handleEvent registry epoch now e) ∨
        ∃ err, Event.ofFrame payload = .error err ∧ p.receive registry epoch now payload =
          ((p.counted payload).count fun s => { s with malformed := s.malformed + 1 },
            .done (.ok none))) ∧
      (∀ err, (p.handle registry epoch now payload).2 ≠ .error (.frame err)) ∧
      ∀ stage err, (p.resume registry epoch now stage).2 ≠ .done (.error (.frame err)) := by
  have hdecoded : (∃ e, Event.ofFrame payload = .ok e) ∨
      ∃ err, Event.ofFrame payload = .error err ∧ err.isRejection = true := by
    cases h : Event.ofFrame payload with
    | ok e => exact .inl ⟨e, rfl⟩
    | error err => exact .inr ⟨err, rfl, Event.rejected_of_isBounded hbounded h⟩
  refine ⟨hdecoded, fun p registry epoch now =>
    ⟨fun htakes => ?_, fun err => ?_, fun stage err => ?_⟩⟩
  · obtain ⟨e, he⟩ | ⟨err, herr, hrejection⟩ := hdecoded
    · exact .inl ⟨e, he, receive_of_event htakes he⟩
    · exact .inr ⟨err, herr, receive_of_rejection htakes herr hrejection⟩
  · refine finish_ne_frame fun err hreceive => ?_
    have hadmits := admits_receive p registry epoch now payload
    rw [hreceive] at hadmits
    obtain ⟨herr, hunheld⟩ := hadmits.unheld_of_frame
    exact Bool.false_ne_true (hunheld.symm.trans (Event.rejected_of_isBounded hbounded herr))
  · exact Stats.Leads.ne_frame (ledFrom_resume stage) err

/-- An item whose tokens are no number is dropped. -/
theorem handle_of_isBounded_nan :
    let payload : Payload :=
      .text "\x7b\"tags\": [], \"item\": \x7b\"_id\": \"x\", \"tokens\": NaN\x7d\x7d"
    let registry : Registry := ⟨⟨true, [], "", none⟩, []⟩
    let p := Pipeline.start .standard .none (.scripted []) ⟨[], [], 0⟩
    payload.IsBounded ∧ registry.Takes payload ∧ Event.ofFrame payload = .error (.item .notANumber) ∧
      (p.receive registry 0 0 payload).1.stats.malformed = 1 ∧
      ∀ err, (p.handle registry 0 0 payload).2 ≠ .error (.frame err) := by
  intro payload registry p
  have hread : Event.readPayload payload = .ok (.obj [("tags", .arr []),
    ("item", .obj [("_id", .str "x"), ("tokens", .real .nan)])]) := by cbv
  have hframe : Event.ofFrame payload = .error (.item .notANumber) := by cbv
  have hbounded : payload.IsBounded := by
    refine ⟨fun text digits htext hdigits _ => ?_, fun members item hmembers hitem => ?_⟩
    · cases htext
      exact hdigits.length_le.trans (by decide +kernel)
    · cases hread.symm.trans hmembers
      cases hitem
      rintro ⟨negative, hnumber⟩
      cases hnumber with
      | level henchants hseries henchant _ =>
        cases henchants
        cases hseries
        cases henchant
      | kind hkind hid =>
        cases hkind
        cases hid
      | own hkey hown =>
        simp only [List.mem_cons, List.not_mem_nil, or_false] at hkey
        obtain rfl | rfl | rfl | rfl := hkey
        all_goals cases hown
  have htakes : registry.Takes payload := ⟨by decide +kernel, rfl⟩
  obtain ⟨-, hhandle⟩ := handle_of_isBounded hbounded
  obtain ⟨hreceive, hescape, -⟩ := hhandle p registry 0 0
  refine ⟨hbounded, htakes, hframe, ?_, hescape⟩
  obtain ⟨e, he, -⟩ | ⟨err, -, hdropped⟩ := hreceive htakes
  · cases hframe.symm.trans he
  · rw [hdropped]
    rfl

/-- An item with infinitely many tokens and an integer of 4301 digits are neither decoded nor
rejected, and the errors come out of handling them. -/
theorem handle_infinite_and_long :
    let infinite : Payload :=
      .text "\x7b\"tags\": [], \"item\": \x7b\"_id\": \"x\", \"tokens\": Infinity\x7d\x7d"
    let long : Payload := .text (String.ofList ('1' :: List.replicate 4300 '1'))
    let registry : Registry := ⟨⟨true, [], "", none⟩, []⟩
    let p := Pipeline.start .standard .none (.scripted []) ⟨[], [], 0⟩
    (∃ err, Event.ofFrame infinite = .error err ∧ err.isRejection = false ∧
      (p.handle registry 0 0 infinite).2 = .error (.frame err)) ∧
    ∃ err, Event.ofFrame long = .error err ∧ err.isRejection = false ∧
      (p.handle registry 0 0 long).2 = .error (.frame err) := by
  intro infinite long registry p
  have hinfinite : Event.ofFrame infinite = .error (.item .infinite) := by cbv
  have hdigits : ∀ d ∈ '1' :: List.replicate 4300 '1', Text.isAsciiDigit d = true := by
    refine List.forall_mem_cons.2 ⟨by decide, fun d hd => ?_⟩
    rw [List.eq_of_mem_replicate hd]
    decide
  have hlength : digitLimit < ('1' :: List.replicate 4300 '1').length := by
    rw [List.length_cons, List.length_replicate]
    decide
  have hlong : Event.ofFrame long = _ := Event.ofFrame_of_digits (by decide) hdigits hlength
  have hheartbeat : long.isHeartbeat = false := by
    refine beq_eq_false_iff_ne.2 fun h => ?_
    have hsame : (String.ofList ('1' :: List.replicate 4300 '1')).length = heartbeat.length :=
      congrArg String.length h
    rw [String.length_ofList] at hsame
    exact absurd hlength (by rw [hsame]; decide)
  exact ⟨⟨_, hinfinite, rfl, handle_of_unheld ⟨by decide +kernel, rfl⟩ hinfinite rfl⟩,
    ⟨_, hlong, rfl, handle_of_unheld ⟨hheartbeat, rfl⟩ hlong rfl⟩⟩

end Pipeline

end FeedWatch
