import FeedWatch.Disk
import FeedWatch.Json.Reader

/-!
# Documents

A document is a file that holds one JSON text in UTF-8.  A document that cannot be read is refused,
and the cause says at which step: the file, its bytes or its text.
-/

namespace FeedWatch

/-- Line ends of all systems become line feeds. -/
def plainLineEnds : List Char → List Char
  | '\r' :: '\n' :: rest => '\n' :: plainLineEnds rest
  | '\r' :: rest => '\n' :: plainLineEnds rest
  | c :: rest => c :: plainLineEnds rest
  | [] => []

/-- The text of a file. -/
def fileText? (content : ByteArray) : Option String :=
  (String.fromUTF8? content).map fun s => String.ofList (plainLineEnds s.toList)

/-- Why a document cannot be read. -/
inductive DocumentError
  | disk (e : DiskError)
  /-- The file is not UTF-8. -/
  | undecodable
  | notJson (e : Json.ReadError)

/-- The wording of the refusal. -/
def DocumentError.message : DocumentError → String
  | disk e => e.message
  | undecodable => "The file is not UTF-8"
  | notJson e => e.message

namespace Document

/-- Reads the content of a document. -/
def ofContent (content : ByteArray) : Except DocumentError Json :=
  match fileText? content with
  | none => .error .undecodable
  | some text => (Json.read text).mapError .notJson

/-- Reads the document at a path. -/
def read (path : Path) (d : Disk) : Except DocumentError Json :=
  match d.read path with
  | .error e => .error (.disk e)
  | .ok content => ofContent content

end Document

end FeedWatch
