import FeedWatch.Item
import FeedWatch.Json.Bytes

/-!
# Feed events

A frame of the feed is a text or a string of bytes.  It is the heartbeat, or a JSON object that says
what changed and on which item.  A frame that is neither is rejected; apart from that, decoding can
fail at a number that has no integer form at all.
-/

namespace FeedWatch

/-- The payload of a frame. -/
inductive Payload
  | text (s : String)
  | bytes (b : ByteArray)

/-- The heartbeat that both ends of the feed exchange. -/
def heartbeat : String := "3"

/-- Whether a payload is the heartbeat. -/
def Payload.isHeartbeat : Payload → Bool
  | text s => s == heartbeat
  | bytes b => b == heartbeat.toUTF8

/-- What a frame reports: the tags of the change and the item it happened to. -/
structure Event where
  tags : List String
  item : Item

/-- Whether an event only reports that an item changed hands. -/
def Event.isOwnerOnly (e : Event) : Bool := e.tags == ["owner"]

/-- Why a frame holds no event. -/
inductive FrameError
  | notJson (e : Json.BytesError)
  | notObject
  | incomplete
  | item (cause : Json.Mismatch)

/-- Whether the frame is rejected as malformed.  A numeral that is too long and a number that is
infinite are not: the frame is well formed, but the number cannot be held. -/
def FrameError.isRejection : FrameError → Bool
  | notJson (.text (.tooLong _)) => false
  | item cause => cause.family != .overflow
  | _ => true

/-- The wording of an error without its cause. -/
def FrameError.summary : FrameError → String
  | notJson _ => "Frame is not JSON"
  | notObject => "Frame is not a JSON object"
  | incomplete => "Frame lacks a tags list or item object"
  | item _ => Item.malformed

namespace Event

/-- Reads a JSON value out of a payload. -/
def readPayload : Payload → Except Json.BytesError Json
  | .text s => (Json.read s).mapError .text
  | .bytes b => Json.readBytes b

/-- Reads an event out of a JSON value. -/
def ofJson : Json → Except FrameError Event
  | .obj members =>
    match members.lookup "tags", members.lookup "item" with
    | some (.arr tags), some (.obj item) =>
      match Item.ofJson (.obj item) with
      | .ok item => .ok { tags := tags.map Json.shown, item }
      | .error cause => .error (.item cause)
    | _, _ => .error .incomplete
  | _ => .error .notObject

/-- Decodes a frame. -/
def ofFrame (payload : Payload) : Except FrameError Event :=
  match readPayload payload with
  | .ok v => ofJson v
  | .error e => .error (.notJson e)

end Event

end FeedWatch
