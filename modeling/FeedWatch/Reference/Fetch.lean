import FeedWatch.Http
import FeedWatch.Json.Bytes
import FeedWatch.Reference

/-!
# Fetching the reference

The reference document is fetched once.  Everything that can be wrong with the reply is reported as
the reference being unavailable, except a failure that has nothing to do with the network.
-/

namespace FeedWatch

/-- Why there is no index. -/
inductive FetchError
  | trouble (t : Http.Trouble)
  | status (code : Int)
  | notJson (e : Json.BytesError)
  | malformed (cause : Json.Mismatch)

namespace FetchError

/-- Whether the reference counts as unavailable. -/
def isUnavailable : FetchError → Bool
  | trouble .broken | trouble .interrupted => false
  | malformed cause => cause.family != .overflow
  | _ => true

/-- The wording without the cause. -/
def summary : FetchError → String
  | trouble _ | status _ => "Failed to fetch pit reference"
  | notJson _ => "Pit reference is not JSON"
  | malformed _ => ReferenceIndex.malformed

/-- The wording with the cause. -/
def message : FetchError → String
  | trouble .broken => Http.Trouble.broken.message
  | trouble t => "Failed to fetch pit reference: " ++ t.message
  | status code => "Failed to fetch pit reference: status " ++ toString code
  | notJson .undecodable => "Pit reference is not JSON: bytes in no known encoding"
  | notJson (.text e) => "Pit reference is not JSON: " ++ e.message
  | malformed cause => ReferenceIndex.malformed ++ ": " ++ cause.written

end FetchError

namespace ReferenceIndex

/-- The address of the reference document. -/
def defaultUrl : String := "https://pitpanda.rocks/pitreference"

/-- The index of the document in a reply. -/
def ofReply : Http.Reply → Except FetchError ReferenceIndex
  | .error t => .error (.trouble t)
  | .ok response =>
    if !response.isSuccess then .error (.status response.status)
    else
      match Json.readBytes response.body with
      | .error e => .error (.notJson e)
      | .ok v => (ofJson v).mapError .malformed

/-- Fetches the document; a client made for this is closed afterwards, whatever came of it. -/
def fetch (ownClient : Bool) (url : String) (line : Http.Line) :
    Http.Line × Except FetchError ReferenceIndex :=
  let (line, reply) := line.exchange "GET" url none
  ({ line with network := line.network.close ownClient }, ofReply reply)

end ReferenceIndex

end FeedWatch
