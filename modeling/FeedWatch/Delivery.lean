import FeedWatch.Http
import FeedWatch.Json.Bytes
import FeedWatch.Json.Mismatch
import FeedWatch.Text.Utf8

/-!
# Delivery to the webhook

An alert is posted to the webhook.  A reply is a delivery, a rate limit, a rejection, or transient;
only what is transient, or no reply at all, is tried again, each time after twice the wait.
`Delivery.react` says what one reply leads to; `Delivery.send` follows it until it is done.
-/

namespace FeedWatch

/-- How a status is handled. -/
inductive StatusClass
  | delivered
  | rateLimited
  | rejected
  | transient
deriving DecidableEq

/-- The name of a way to handle a status. -/
def StatusClass.name : StatusClass → String
  | delivered => "delivered"
  | rateLimited => "rate_limited"
  | rejected => "rejected"
  | transient => "transient"

/-- How a status is handled. -/
def StatusClass.of (status : Int) : StatusClass :=
  if 200 ≤ status && status < 300 then .delivered
  else if status = 429 then .rateLimited
  else if 500 ≤ status then .transient
  else .rejected

/-- The wait in seconds after a rate limit that does not name one. -/
def defaultWait : Binary64 := .ofInt 5

/-- The wait in seconds that the body of a response names. -/
def waitInBody (body : ByteArray) : Except Json.Mismatch Binary64 :=
  match Json.readBytes body with
  | .error _ => .ok defaultWait
  | .ok v =>
    match v.member "retry_after" with
    | .error _ => .ok defaultWait
    | .ok w =>
      match w.toReal with
      | .ok x => .ok x
      | .error cause => if cause.family = .overflow then .error cause else .ok defaultWait

/-- The wait in seconds that a rate limit asks for: the header's if that is a number, else the
body's.  An integer in the body that binary64 cannot hold is an error. -/
def retryAfter (r : Http.Response) : Except Json.Mismatch Binary64 :=
  match (r.header? "Retry-After").bind readDecimal with
  | some x => .ok x
  | none => waitInBody r.body

/-- What came of a delivery. -/
structure SendResult where
  success : Bool
  status : Option Int
  error : Option String
  retryAfter : Option Binary64
deriving DecidableEq

namespace SendResult

/-- A delivery that succeeded. -/
def delivered (status : Int) : SendResult := ⟨true, some status, none, none⟩

/-- A delivery that failed. -/
def failed (status : Option Int) (error : String) : SendResult := ⟨false, status, some error, none⟩

/-- Whether the delivery met a rate limit. -/
def isRateLimited (r : SendResult) : Bool := r.status == some 429

end SendResult

/-- Counts of deliveries, and when the last of each kind ended. -/
structure Metrics where
  sent : Nat
  failed : Nat
  lastSuccess : Option Nat
  lastFailure : Option Nat

namespace Metrics

/-- No deliveries. -/
def zero : Metrics := ⟨0, 0, none, none⟩

/-- Counts a delivery that ended at a time. -/
def record (r : SendResult) (time : Nat) (m : Metrics) : Metrics :=
  if r.success then { m with sent := m.sent + 1, lastSuccess := some time }
  else { m with failed := m.failed + 1, lastFailure := some time }

end Metrics

/-- The delivery to one webhook.  A client is made for the first request and used until closed. -/
structure Delivery where
  url : Option String
  attempts : Nat
  baseDelay : Nat
  metrics : Metrics
  hasClient : Bool

/-- Why a delivery has no result. -/
inductive DeliveryError
  | trouble (t : Http.Trouble)
  | wait (cause : Json.Mismatch)

namespace Delivery

/-- The delivery to a webhook before the first alert. -/
def ofUrl (url : Option String) : Delivery :=
  { url, attempts := 3, baseDelay := 1000000, metrics := .zero, hasClient := false }

/-- The address to post to, if one is set. -/
def address? (d : Delivery) : Option String :=
  match d.url with
  | some url => if url.isEmpty then none else some url
  | none => none

/-- The result without a webhook; it is not counted. -/
def unconfigured : SendResult := .failed none "Webhook not configured"

/-- The error before any attempt. -/
def noAttempts : String := "No attempts made"

/-- What a reply leads to. -/
inductive Reaction
  | finish (r : SendResult)
  | retry (error : String) (delay : Nat)
  | fail (e : DeliveryError)

/-- The number of times that a wait can be doubled: binary64 has no greater power of two. -/
def doublings : Nat := 1023

/-- The wait after an attempt, counted from one.  How often it has been doubled goes into one
factor, which has to be a binary64 number. -/
def waitAfter (d : Delivery) (attempt : Nat) : Except Json.Mismatch Nat :=
  if attempt - 1 ≤ doublings then .ok (d.baseDelay * Nat.pow 2 (attempt - 1))
  else .error .tooLarge

/-- Tries again after a wait, or gives up at the last attempt. -/
def retryOr (d : Delivery) (attempt : Nat) (error : String) (last : SendResult) : Reaction :=
  if attempt < d.attempts then
    match d.waitAfter attempt with
    | .ok delay => .retry error delay
    | .error cause => .fail (.wait cause)
  else .finish last

/-- What the reply to an attempt, counted from one, leads to. -/
def react (d : Delivery) (attempt : Nat) : Http.Reply → Reaction
  | .error .timeout =>
    let error := "Timeout after retries"
    d.retryOr attempt error (.failed none error)
  | .error .unreachable =>
    let error := "Request error: " ++ Http.Trouble.unreachable.message
    d.retryOr attempt error (.failed none error)
  | .error t => .fail (.trouble t)
  | .ok r =>
    match StatusClass.of r.status with
    | .delivered => .finish (.delivered r.status)
    | .rateLimited =>
      match FeedWatch.retryAfter r with
      | .ok wait => .finish ⟨false, some 429, some "Rate limited", some wait⟩
      | .error cause => .fail (.wait cause)
    | .rejected =>
      .finish (.failed (some r.status) ("Webhook rejected (HTTP " ++ toString r.status ++ ")"))
    | .transient =>
      let error := "HTTP " ++ toString r.status ++ ": " ++
        String.ofList ((Text.utf8Text r.body).toList.take 200)
      d.retryOr attempt error (.failed (some r.status) error)

/-- Counts a delivery that ended. -/
def record (r : SendResult) (time : Nat) (d : Delivery) : Delivery :=
  { d with metrics := d.metrics.record r time }

/-- Posts once, making a client first if there is none. -/
def post (address : Option String) (payload : Json) (time : Nat) (d : Delivery)
    (net : Http.Network) : Delivery × Http.Network × Http.TimedReply :=
  let (net, reply) := net.request "POST" address (some payload) time
  ({ d with hasClient := true }, net, reply)

/-- Makes the attempts from one on, `left` of them. -/
def attemptFrom (address : String) (payload : Json) :
    Nat → Nat → Delivery → Http.Line → (Delivery × Http.Line) × Except DeliveryError SendResult
  | 0, _, d, line => ((d, line), .ok (.failed none noAttempts))
  | left + 1, attempt, d, line =>
    let (d, network, timed) := d.post (some address) payload line.now line.network
    let line : Http.Line := { network, now := line.now + timed.delay }
    match d.react attempt timed.reply with
    | .finish r => ((d, line), .ok r)
    | .fail e => ((d, line), .error e)
    | .retry _ delay =>
      attemptFrom address payload left (attempt + 1) d { line with now := line.now + delay }

/-- Delivers a payload; only what was attempted is counted. -/
def send (payload : Json) (d : Delivery) (line : Http.Line) :
    (Delivery × Http.Line) × Except DeliveryError SendResult :=
  match d.address? with
  | none => ((d, line), .ok unconfigured)
  | some address =>
    match attemptFrom address payload d.attempts 1 d line with
    | ((d, line), .ok r) => ((d.record r line.now, line), .ok r)
    | failed => failed

/-- Closes the client, if there is one. -/
def close (d : Delivery) (net : Http.Network) : Delivery × Http.Network :=
  ({ d with hasClient := false }, net.close d.hasClient)

end Delivery

end FeedWatch
