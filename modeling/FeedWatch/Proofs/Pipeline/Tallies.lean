import FeedWatch.Pipeline
import Mathlib.Tactic.Common

/-!
# Two counts of the same deliveries

The pipeline counts what became of the alerts that it handed to the webhook, and the client of the
webhook counts the results that it came to.  Each counts in a place of its own, and many deliveries
may be under way at once.  The two counts never differ by more than what the client does not count:
alerts that it drops because no webhook is set, and those for which it has no result.

Main statements: handling a frame keeps the counts together from one wait to the next
(`Pipeline.isTallied_receive`, `Pipeline.isTallied_resume`).
-/

namespace FeedWatch.Pipeline

/-- The counts of a pipeline agree with those of a client: what was dispatched is what the client
sent, what was not delivered is what failed at the client, was dropped or raised an error, and the
client has counted each delivery that came to a result. -/
structure TalliesWith (p : Pipeline) (d : Delivery) : Prop where
  dispatched : p.stats.dispatched = d.metrics.sent
  errors : p.stats.deliveryErrors =
    d.metrics.failed + p.ends.count .dropped + p.ends.count .raised
  counted : p.ends.count .counted = d.metrics.sent + d.metrics.failed

/-- The counts of a pipeline agree with those of its own client. -/
def IsTallied (p : Pipeline) : Prop := ∃ d, p.sink = .webhook d ∧ p.TalliesWith d

variable {registry : Registry} {epoch : Int} {now : Nat} {a : Alert} {d d' : Delivery}
variable {p p' : Pipeline}

/-- A new pipeline with a new client. -/
lemma isTallied_start (pages : AlertPages) (resolver : Resolver) (url : Option String)
    (network : Http.Network) : (start pages resolver (.webhook (.ofUrl url)) network).IsTallied :=
  ⟨_, rfl, rfl, rfl, rfl⟩

/-! ## What leaves the counts alone -/

/-- Who neither ends a delivery nor counts one keeps the counts together. -/
lemma TalliesWith.congr (h : p.TalliesWith d) (hmetrics : d'.metrics = d.metrics)
    (hdispatched : p'.stats.dispatched = p.stats.dispatched)
    (herrors : p'.stats.deliveryErrors = p.stats.deliveryErrors) (hends : p'.ends = p.ends) :
    p'.TalliesWith d' := by
  constructor
  · rw [hdispatched, hmetrics, h.dispatched]
  · rw [herrors, hmetrics, hends, h.errors]
  · rw [hends, hmetrics, h.counted]

lemma IsTallied.congr (h : p.IsTallied) (hsink : p'.sink = p.sink)
    (hdispatched : p'.stats.dispatched = p.stats.dispatched)
    (herrors : p'.stats.deliveryErrors = p.stats.deliveryErrors) (hends : p'.ends = p.ends) :
    p'.IsTallied := by
  obtain ⟨d, hd, htallies⟩ := h
  exact ⟨d, hsink.trans hd, htallies.congr rfl hdispatched herrors hends⟩

/-! ## Ends of deliveries -/

/-- The client counts a result, and the pipeline counts by it. -/
lemma isTallied_recorded (h : p.TalliesWith d) (r : SendResult) :
    (({ p with sink := .webhook (d.record r now) }.ended .counted).concluded a
      r.success).1.IsTallied := by
  obtain ⟨hdispatched, herrors, hcounted⟩ := h
  refine ⟨d.record r now, ?_⟩
  rw [concluded, Delivery.record, Metrics.record]
  split_ifs with hsuccess
  · refine ⟨rfl, ?_, ?_, ?_⟩
    · show p.stats.dispatched + 1 = d.metrics.sent + 1
      rw [hdispatched]
    · simpa [dispatched, count, ended, List.count_append] using herrors
    · simp only [dispatched, count, ended, List.count_append, hcounted, List.count_singleton_self]
      omega
  · refine ⟨rfl, hdispatched, ?_, ?_⟩
    · simp only [undelivered, count, ended, List.count_append, herrors, List.count_singleton]
      simp
      omega
    · simp only [undelivered, count, ended, List.count_append, hcounted, List.count_singleton_self]
      omega

/-- A delivery ends that the client does not count, and the pipeline counts an error. -/
lemma isTallied_uncounted (h : p.TalliesWith d) {x : SendEnd} (hx : x = .dropped ∨ x = .raised) :
    ({ p with sink := .webhook d }.ended x).undelivered.1.IsTallied := by
  obtain ⟨hdispatched, herrors, hcounted⟩ := h
  refine ⟨d, rfl, hdispatched, ?_, ?_⟩
  · simp only [undelivered, count, ended, List.count_append, herrors, List.count_singleton]
    obtain rfl | rfl := hx
    · simp
      omega
    · simp
      omega
  · simp only [undelivered, count, ended, List.count_append, hcounted, List.count_singleton]
    obtain rfl | rfl := hx
    · rfl
    · rfl

/-! ## Handling frames -/

/-- Between the reply and the counts nothing else happens. -/
lemma isTallied_onReply (h : p.TalliesWith d) (attempt : Nat) (reply : Http.Reply) :
    (p.onReply now d a attempt reply).1.IsTallied := by
  rw [onReply]
  split
  · exact isTallied_recorded h _
  · exact ⟨d, rfl, h.congr rfl rfl rfl rfl⟩
  · exact ⟨d, rfl, h.congr rfl rfl rfl rfl⟩
  · exact isTallied_uncounted h (.inr rfl)

lemma isTallied_attemptPost (h : p.TalliesWith d) (attempt : Nat) :
    (p.attemptPost now d a attempt).1.IsTallied := by
  rw [attemptPost]
  dsimp only
  split_ifs
  · refine isTallied_onReply ?_ attempt _
    exact h.congr rfl rfl rfl rfl
  · exact ⟨_, rfl, h.congr rfl rfl rfl rfl⟩

lemma isTallied_deliver (h : p.IsTallied) : (p.deliver now a).1.IsTallied := by
  obtain ⟨d, hd, htallies⟩ := h
  have hsent : { p with sends := p.sends ++ [(now, a)] }.TalliesWith d :=
    htallies.congr rfl rfl rfl rfl
  simp only [deliver, hd]
  split_ifs
  · exact isTallied_uncounted hsent (.inl rfl)
  · exact isTallied_recorded (a := a) hsent (.failed none Delivery.noAttempts)
  · exact isTallied_attemptPost hsent 1

lemma isTallied_onLabel (h : p.IsTallied) (e : Event) (filters : List Filter)
    (label : Option String) (interrupted : Bool) :
    (p.onLabel registry epoch now e filters label interrupted).1.IsTallied := by
  rw [onLabel]
  split_ifs
  · exact h
  · rw [compose]
    split
    · exact h
    · exact isTallied_deliver h

lemma isTallied_ask (h : p.IsTallied) (owner : String) : (p.ask now owner).1.IsTallied := by
  rw [ask]
  split
  · exact h
  · exact h.congr rfl rfl rfl rfl
  · dsimp only
    split
    · exact h.congr rfl rfl rfl rfl
    · split
      · exact h.congr rfl rfl rfl rfl
      · exact h.congr rfl rfl rfl rfl

lemma isTallied_handleEvent (h : p.IsTallied) (e : Event) :
    (p.handleEvent registry epoch now e).1.IsTallied := by
  rw [handleEvent]
  split_ifs
  · exact h.congr rfl rfl rfl rfl
  · dsimp only
    split_ifs
    · exact h.congr rfl rfl rfl rfl
    · exact isTallied_onLabel (isTallied_ask h _) _ _ _ _
    · exact isTallied_ask h _

/-- Handling a frame up to its first wait keeps the counts together. -/
theorem isTallied_receive (h : p.IsTallied) (payload : Payload) :
    (p.receive registry epoch now payload).1.IsTallied := by
  rw [receive]
  dsimp only
  split_ifs
  · exact h.congr rfl rfl rfl rfl
  · exact h.congr rfl rfl rfl rfl
  · split
    · refine isTallied_handleEvent ?_ _
      exact h.congr rfl rfl rfl rfl
    · split_ifs
      · exact h.congr rfl rfl rfl rfl
      · exact h.congr rfl rfl rfl rfl

/-- Handling a frame from one wait to the next keeps the counts together, whatever other frames did
to them meanwhile. -/
theorem isTallied_resume (h : p.IsTallied) (stage : Stage) :
    (p.resume registry epoch now stage).1.IsTallied := by
  cases stage with
  | labelled e filters label interrupted => exact isTallied_onLabel h e filters label interrupted
  | replied a attempt reply =>
    obtain ⟨d, hd, htallies⟩ := h
    rw [resume]
    simp only [hd]
    exact isTallied_onReply htallies attempt reply
  | retrying a attempt =>
    obtain ⟨d, hd, htallies⟩ := h
    rw [resume]
    simp only [hd]
    exact isTallied_attemptPost htallies attempt

end FeedWatch.Pipeline
