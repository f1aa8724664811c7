import FeedWatch.Calendar
import FeedWatch.Json.Printer
import FeedWatch.Log.Level
import FeedWatch.Log.Pattern
import FeedWatch.Log.Problem

/-!
# Log records

A log record is written as one line of text, with its context behind the message, or as one JSON
object, with its context as further members.  In an object a context entry of the same name takes
the place of a member, and a problem comes last.

Some names belong to the record itself.  An entry with such a name changes what the record says, or
nothing, and is never part of the context.
-/

namespace FeedWatch.Log

/-- What a record says of a problem. -/
inductive Cause
  | nothing
  | raised (p : Problem)
  /-- An entry has set it: a kind, a value and a trace, and perhaps how deep the trace is shown. -/
  | entry (v : Json)

/-- A log record.  The logger, the level and the pattern are texts and the time is a number of
seconds, unless an entry has set them to something else. -/
structure Record where
  logger : Json
  level : Json
  pattern : Json
  arguments : Arguments
  created : Json
  context : List (String × Json)
  cause : Cause

/-- Why a record cannot be written. -/
inductive RecordError
  | timeNotNumber
  /-- A whole number of parts of a second is too many seconds. -/
  | timeTooLarge
  | timeUndefined
  | timeInfinite
  /-- The year of the time does not fit into a word. -/
  | timeBeyondCalendar
  | time (e : MomentError)
  | loggerNotText
  | notProblem
  /-- A problem has a value without a trace. -/
  | halfProblem
  /-- A problem has a value or a trace that is none. -/
  | noTrace
  /-- The depth of a trace is no count. -/
  | notDepth
  /-- An entry stands in the place of the record's own way to give its message. -/
  | messageHidden
  /-- An entry would change what a record is. -/
  | notEntry
  | notLevel
  | pattern (e : PatternError)

/-- The wording of the errors that have one of their own. -/
def RecordError.message : RecordError → String
  | timeNotNumber => "a time is a number"
  | timeTooLarge => "integer division result too large for a float"
  | timeUndefined => "Invalid value NaN (not a number)"
  | timeInfinite => "timestamp out of range for platform time_t"
  | timeBeyondCalendar => "a time has a year"
  | time e => e.message
  | loggerNotText => "a logger's name is a text"
  | notProblem => "a problem has a kind"
  | halfProblem => "Both or neither of value and tb must be given"
  | noTrace => "a problem has a trace"
  | notDepth => "Stop argument for islice() must be None or an integer: 0 <= x <= sys.maxsize."
  | messageHidden => "a record gives its message"
  | notEntry => "a record stays a record"
  | notLevel => "a level is a number or a name"
  | pattern e => e.message

namespace Cause

/-- The values of a problem that an entry has set.  A text gives its characters and an object its
keys. -/
def values : Json → Except RecordError (List Json)
  | .arr vs => .ok vs
  | .str s => .ok (s.toList.map fun c => .str (String.singleton c))
  | .obj ms => .ok (ms.map fun (k, _) => .str k)
  | _ => .error .notProblem

/-- Whether any of a trace is read at a depth. -/
def readsTrace : Json → Except RecordError Bool
  | .null => .ok true
  | .bool b => .ok b
  | .int i => if longWordLimit ≤ i then .error .notDepth else .ok (i != 0)
  | .real .nan => .error .notProblem
  | .real x => .error (if x.isNegative then .notProblem else .notDepth)
  | _ => .error .notProblem

/-- The line for a problem that is none. -/
def noProblem : String := "NoneType: None\n"

/-- The lines for a problem that an entry has set.  It can only be none at all. -/
def writtenEntry (v : Json) : Except RecordError String := do
  match ← values v with
  | [.null] => return noProblem
  | [_, _] => throw .halfProblem
  | _ :: value :: trace :: more =>
    if 2 < more.length then throw .notProblem
    let reads ← readsTrace (more.head?.getD .null)
    match value, trace with
    | .null, .null => return noProblem
    | .null, _ => if reads then throw .noTrace else return noProblem
    | _, _ => throw .noTrace
  | _ => throw .notProblem

/-- The lines for a problem; none if there is none. -/
def written : Cause → Except RecordError (Option String)
  | nothing => .ok none
  | raised p => .ok (some p.written)
  | entry v => if v.isFilled then (writtenEntry v).map some else .ok none

end Cause

namespace Record

/-- The names that belong to a record. -/
def ownNames : List String := [
  "name", "msg", "args", "levelname", "levelno", "pathname", "filename", "module", "exc_info",
  "exc_text", "stack_info", "lineno", "funcName", "created", "msecs", "relativeCreated", "thread",
  "threadName", "processName", "process"]

/-- The names that are made when a record is written. -/
def madeNames : List String := ["message", "asctime"]

/-- Whether a name can be no part of the context. -/
def isReserved (name : String) : Bool := ownNames.contains name || madeNames.contains name

/-- The name of the way in which a record gives its message. -/
def messageName : String := "getMessage"

/-- The names of what makes a record one. -/
def fixedNames : List String := ["__class__", "__dict__"]

/-- The severities that the name of a level stands for. -/
def namedSeverities : List (String × Int) :=
  [("NOTSET", 0), ("WARN", 30), ("FATAL", 50)] ++ Level.all.map fun l => (l.label, l.severity)

/-- What a record says of its level.  A number is named, and a name becomes the number. -/
def levelOf : Json → Except RecordError Json
  | .int i => .ok (.str (severityLabel i))
  | .bool false => .ok (.str (severityLabel 0))
  | .real x =>
    .ok (.str (match namedSeverities.find? fun (_, i) => Binary64.ofInt i == x with
      | some (_, i) => severityLabel i
      | none => if x.isZero then severityLabel 0 else "Level " ++ x.toText))
  | .str s =>
    .ok (match namedSeverities.lookup s with
      | some i => .int i
      | none => .str ("Level " ++ s))
  | .arr _ | .obj _ => .error .notLevel
  | v => .ok (.str ("Level " ++ v.shown))

/-- A record of a logger. -/
def new (logger level pattern : Json) (arguments : List Json) (created : Json) (cause : Cause) :
    Record :=
  { logger, level, pattern, arguments := .ofList arguments, created, context := [], cause }

/-- A number of parts of a second in seconds. -/
def seconds (parts : Nat) : Json → Except RecordError Json
  | .int i =>
    match Binary64.ofRatio (i < 0) i.natAbs parts with
    | .infinite _ => .error .timeTooLarge
    | x => .ok (.real x)
  | .bool b => .ok (.real (.ofRatio false (if b then 1 else 0) parts))
  | .real (.finite negative m e) =>
    let (n, d) := Binary64.ratio m e
    .ok (.real (.ofRatio negative n (d * parts)))
  | .real x => .ok (.real x)
  | _ => .error .timeNotNumber

/-- Adds an entry. -/
def set (name : String) (value : Json) (r : Record) : Record :=
  match name with
  | "name" => { r with logger := value }
  | "levelname" => { r with level := value }
  | "msg" => { r with pattern := value }
  | "args" => { r with arguments := .one value }
  | "created" => { r with created := value }
  | "exc_info" => { r with cause := .entry value }
  | name =>
    if isReserved name then r
    else { r with context := Json.setMember name value r.context }

/-- Adds entries in order. -/
def setAll (entries : List (String × Json)) (r : Record) : Record :=
  entries.foldl (fun r (name, value) => r.set name value) r

/-- Adds entries in order, unless one would change what a record is. -/
def setAll? (entries : List (String × Json)) (r : Record) : Except RecordError Record :=
  if entries.any fun (name, _) => fixedNames.contains name then .error .notEntry
  else .ok (r.setAll entries)

/-- The whole seconds of a time.  The part of a second is taken to the nearest microsecond, a tie
going to the even one; what is left of a negative time counts for a second. -/
def wholeSeconds : Json → Except RecordError Int
  | .int i => if fitsLongWord i then .ok i else .error .timeInfinite
  | .bool b => .ok (if b then 1 else 0)
  | .real (.finite negative m e) =>
    let (n, d) := Binary64.ratio m e
    let micros := match Binary64.ofRatio false (n % d * 1000000) d with
      | .finite _ m e =>
        let (n, d) := Binary64.ratio m e
        roundHalfEven n d
      | _ => 0
    let second : Int :=
      if negative then -(n / d : Nat) - (if 0 < micros then 1 else 0)
      else (n / d : Nat) + (if 1000000 ≤ micros then 1 else 0)
    if fitsLongWord second then .ok second else .error .timeInfinite
  | .real (.infinite _) => .error .timeInfinite
  | .real .nan => .error .timeUndefined
  | _ => .error .timeNotNumber

/-- The year of a time in seconds, whatever its size. -/
def yearOf (second : Int) : Int :=
  let days := second / 86400 + Moment.daysTo1970
  (Moment.civil (days % 146097).toNat).1 + 400 * (days / 146097)

/-- The time to the second.  Years are counted from 1900 in a word, and have four digits. -/
def stamp (r : Record) : Except RecordError String := do
  let second ← wholeSeconds r.created
  let year := yearOf second
  if !fitsWord (year - 1900) then throw .timeBeyondCalendar
  if year < 1 || 9999 < year then
    throw (.time (.year (if year < wordLimit then year else year - 2 * wordLimit)))
  return (Moment.ofMicros (second * 1000000)).toSeconds

/-- The message. -/
def message (r : Record) : Except RecordError String :=
  if r.context.any fun (name, _) => name == messageName then .error .messageHidden
  else (Log.message r.pattern.shown r.arguments).mapError .pattern

/-- The part of a name behind its last point. -/
def component (name : String) : String :=
  String.ofList (name.toList.reverse.takeWhile (· != '.')).reverse

/-- The record as a line of text, and more lines for a problem. -/
def text (r : Record) : Except RecordError String := do
  let stamp ← r.stamp
  let problem ← r.cause.written
  let .str logger := r.logger | throw .loggerNotText
  let message ← r.message
  let head := stamp ++ " [" ++ r.level.shown ++ "] [" ++ component logger ++ "] " ++ message
  let context := r.context.map fun (name, value) => " " ++ name ++ "=" ++ value.shown
  let problem := match problem with
    | none => ""
    | some p => "\n" ++ String.ofList (p.toList.reverse.dropWhile (· == '\n')).reverse
  return head ++ String.join context ++ problem

/-- The record as a JSON object. -/
def toJson (r : Record) : Except RecordError Json := do
  let stamp ← r.stamp
  let problem ← r.cause.written
  let message ← r.message
  return .obj (Json.members ([
    ("timestamp", .str stamp), ("level", r.level), ("logger", r.logger),
    ("message", .str message)] ++ r.context ++
      (problem.map fun p => ("exception", .str p)).toList))

/-- The forms of a log. -/
inductive Form
  | text
  | json
deriving DecidableEq

/-- The record in a form of the log. -/
def written (r : Record) : Form → Except RecordError String
  | .text => r.text
  | .json => r.toJson.map Json.inline

end Record

end FeedWatch.Log
