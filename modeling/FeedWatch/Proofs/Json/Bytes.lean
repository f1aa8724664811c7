import FeedWatch.Proofs.Json.RoundTrip
import FeedWatch.Proofs.Json.Utf8

/-!
# Written values as bytes

A written object begins with two ASCII characters, so its bytes are taken for what they are.  Main
statement: the bytes of a written object are read as what its text denotes
(`Json.readBytes_reread`).
-/

namespace FeedWatch.Json

/-- What an object begins with announces no other encoding. -/
lemma detect_object (fs : List (String × Json)) :
    Encoding.detect ((obj fs).indented.toList.flatMap String.utf8EncodeChar) = .utf8 0 := by
  rw [indented, String.toList_ofList]
  cases fs with
  | nil => exact detect_of_isNonzeroAscii [] (by decide) (by decide)
  | cons f fs => exact detect_of_isNonzeroAscii _ (by decide) (by decide)

/-- The bytes of a written object are read as the object that its text denotes. -/
lemma readBytes_reread {fs : List (String × Json)} (hfs : (obj fs).IsFit) :
    readBytes (obj fs).indented.toUTF8 = .ok (obj fs).reread := by
  rw [readBytes_toUTF8 (detect_object fs), wholeValue_indented hfs]
  rfl

end FeedWatch.Json
