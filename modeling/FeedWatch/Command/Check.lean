import FeedWatch.Command.Report
import FeedWatch.Config
import FeedWatch.Document
import FeedWatch.Query.Compile
import FeedWatch.Reference.Fetch

/-!
# Checking a query

A query is checked against an item in a file.  The reference comes from a file too, or is fetched;
only then does the configuration matter, and its faults are faults of the reference.
The report tells for the query and for every clause whether the item passes.
-/

namespace FeedWatch.Command

/-- Why a query cannot be checked. -/
inductive CheckError
  | itemFile (e : DocumentError)
  | item (cause : Json.Mismatch)
  | referenceFile (e : DocumentError)
  | reference (e : FetchError)
  | config (faults : Config.Faults)
  | query (e : TooManyDigits)

namespace CheckError

/-- The wording of an error. -/
def message : CheckError → String
  | itemFile e => e.message
  | item cause =>
    if cause.family = .overflow then cause.message else Item.malformed ++ ": " ++ cause.written
  | referenceFile e => e.message
  | reference e => e.message
  | config faults => Config.refusal faults
  | query e => e.message

/-- The kind of an error that the command foresees. -/
def refusal? : CheckError → Option String
  | itemFile _ => some "invalid_item"
  | referenceFile _ => some "reference_unavailable"
  | reference e => if e.isUnavailable then some "reference_unavailable" else none
  | config _ => some "reference_unavailable"
  | _ => none

end CheckError

/-- A query to be checked: its text, the path of the item, and the path of the reference, if it is
not to be fetched. -/
structure Check where
  query : String
  item : String
  reference : Option String

namespace Check

/-- The word for the command. -/
def name : String := "check"

/-- Reads the item. -/
def readItem (disk : Disk) (c : Check) : Except CheckError Item := do
  let v ← (Document.read (.parse c.item) disk).mapError .itemFile
  (Item.ofJson v).mapError .item

/-- Reads or fetches the reference; an empty path counts as none. -/
def readReference (config : Except Config.Faults Config) (disk : Disk) (line : Http.Line)
    (c : Check) :
    Http.Line × Except CheckError ReferenceIndex :=
  match c.reference.filter (· != "") with
  | some path =>
    (line, do
      let v ← (Document.read (.parse path) disk).mapError .referenceFile
      (ReferenceIndex.ofJson v).mapError fun cause => .reference (.malformed cause))
  | none =>
    match config with
    | .error faults => (line, .error (.config faults))
    | .ok config =>
      let (line, result) := ReferenceIndex.fetch true config.referenceUrl line
      (line, result.mapError .reference)

/-- What is told about a clause. -/
def clauseJson (item : Item) (c : Clause) : Json := .obj [
  ("kind", .str c.test.kindName), ("negated", .bool c.negated), ("key", .str c.test.key),
  ("passes", .bool (c.accepts item))]

/-- What is told about an item and a query. -/
def members (source : String) (q : Query) (item : Item) : List (String × Json) := [
  ("query", .str source), ("matches", .bool (q.accepts item)),
  ("clauses", .arr (q.clauses.map (clauseJson item)))]

/-- Carries the check out: the item first, then the reference, then the query. -/
def perform (config : Except Config.Faults Config) (disk : Disk) (line : Http.Line) (c : Check) :
    Http.Line × Except CheckError (List (String × Json)) :=
  match c.readItem disk with
  | .error e => (line, .error e)
  | .ok item =>
    match c.readReference config disk line with
    | (line, .error e) => (line, .error e)
    | (line, .ok index) =>
      (line, ((Query.compile index c.query).mapError .query).map fun q => members c.query q item)

/-- The report of a check. -/
def report : Except CheckError (List (String × Json)) → Report
  | .ok members => .done members
  | .error e =>
    match e.refusal? with
    | some kind => .refused kind e.message
    | none => .failed name e.message

end Check

end FeedWatch.Command
