import FeedWatch.Proofs.Listener.Safety

/-!
# Every frame is handled once

A frame that was read and is no heartbeat has one task, which is pending until handling begins.
Main statement: in every run, whatever the order of the calls, the frames whose handling has begun
and those that are pending are the frames that were read and are no heartbeats, each as often as it
was read; all frames are counted; and on no socket anything is read behind an error message, the end
or a failure.  If calls are made in order, handling begins in the order of reading
(`Reachable.begun_or_pending`).
-/

namespace FeedWatch

namespace Engine

variable {e : Engine}

/-- The frames whose handling has not begun, in the order of their tasks. -/
def pendingFrames (e : Engine) : List Payload := (pendingOf e.tasks).map Prod.snd

/-- With nothing in the queue no frame is pending. -/
lemma Rest.pendingFrames_eq_nil (h : Rest True e) (hqueue : e.schedule.queue = []) :
    e.pendingFrames = [] := by
  have horder := (h.orderly.lined trivial).order
  rw [hqueue, List.filter_eq_self.2 (by simp)] at horder
  have hnil : (pendingOf e.tasks).map Prod.fst = [] := List.sublist_nil.1 horder
  rw [pendingFrames, List.map_eq_nil_iff.1 hnil, List.map_nil]

/-- Handling begins once for each frame that is read and is no heartbeat, and for nothing else; each
frame is counted, and nothing is read behind what ends a connection.  If calls are made in order,
handling begins in the order of reading, and has begun for all frames when the queue is empty.  At
its first wait a frame is decoded and matched against the filters, whatever it waits for. -/
theorem Reachable.begun_or_pending (h : Reachable InAnyOrder e) :
    (e.received ++ e.pendingFrames).Perm (dataFramesOf e.feed.read) ∧
      (e.listener 0).framesReceived = (framesOf e.feed.read).length ∧
      e.feed.read.Pairwise (fun a b => a.1 = b.1 → a.2.ends = false) ∧
      (Reachable InOrder e → e.received ++ e.pendingFrames = dataFramesOf e.feed.read ∧
        (e.schedule.queue = [] → e.received = dataFramesOf e.feed.read)) ∧
      ∀ (p : Pipeline) (registry : Registry) (epoch : Int) (now delay : Nat) (payload : Payload)
        (s : Stage), (p.receive registry epoch now payload).2 = .wait delay s →
          s.IsDecided registry payload := by
  obtain ⟨-, -, -, -, hreadings, hledger⟩ := h.rest.sound
  refine ⟨hledger.perm, hledger.count, hreadings.ends, fun hinOrder => ?_,
    fun _ _ _ _ _ _ _ hwait => Pipeline.receive_stage hwait⟩
  have hrest := hinOrder.rest_inOrder
  have horder : e.received ++ e.pendingFrames = dataFramesOf e.feed.read :=
    hrest.sound.ledger.order trivial
  refine ⟨horder, fun hqueue => ?_⟩
  rw [hrest.pendingFrames_eq_nil hqueue, List.append_nil] at horder
  exact horder

/-- Three frames are read, one of them a heartbeat, and handling the first one has begun. -/
theorem Reachable.begun_or_pending_heartbeat : ∃ e, Reachable InOrder e ∧
    framesOf e.feed.read = [.text "a", .text heartbeat, .text "b"] ∧
    (e.listener 0).framesReceived = 3 ∧ e.received = [.text "a"] ∧
    e.pendingFrames = [.text "b"] ∧ e.received ++ e.pendingFrames = dataFramesOf e.feed.read := by
  have hfresh : Reachable InOrder ((start ⟨"", .zero false, none, .zero false⟩ 0 ⟨["settings"], ""⟩
      .empty ⟨[], [], 0⟩ (.ofScript [{ Attempt.plain with inbox := [
        .message (.frame (.text "a")), .message (.frame (.text heartbeat)), .message .control,
        .message (.frame (.text "b")), .message .error] }])).addStation
      ⟨⟨["settings"], ""⟩, .empty, .empty, ⟨⟨false, [], "", none⟩, []⟩, 0⟩
      (.start .standard .none (.scripted []) ⟨[], [], 0⟩)) :=
    ⟨_, .intro _ _ _ _ _ _ _ _ rfl, .refl⟩
  have hread := (hfresh.step (.start _ rfl)).callFirst rfl
  -- the heartbeat's task stands before those of the frames
  have hbegun := (hread.callFirst rfl).callFirst rfl
  have hframes := Reachable.begun_or_pending hbegun.inAnyOrder
  exact ⟨_, hbegun, rfl, hframes.2.1, rfl, rfl, (hframes.2.2.2.1 hbegun).1⟩

end Engine

end FeedWatch
