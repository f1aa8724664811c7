import FeedWatch.Command.Check
import FeedWatch.Command.Edit
import FeedWatch.Command.Grammar
import FeedWatch.Command.Watch

/-!
# Commands

The commands of the program and how a command line is read as one.  Options of the program stand
before the command, and the words behind the command belong to it.
-/

namespace FeedWatch

/-- A command. -/
inductive Command
  | watch (c : Command.Watch)
  | edit (e : Command.Edit)
  | check (c : Command.Check)

namespace Command

/-- The word for a command. -/
def name : Command → String
  | watch _ => Watch.name
  | edit e => e.name
  | check _ => Check.name

/-- An integer, if the text is one. -/
def integer? (text : String) : Option Int := (readInteger text).toOption

/-- Words joined to a text, unless there are none. -/
def joined? (words : List String) : Option String :=
  if words.isEmpty then none else some (" ".intercalate words)

/-- The options and places of a command, and the command that a reading of them gives. -/
structure Form where
  grammar : Grammar
  command : Grammar.Reading → Command

/-! ## The forms of the commands -/

def watchForm : Form := {
  grammar := { switches := [
    { names := ["--reconnect-delay"], takesValue := true
      accepts := fun text => (readDecimal text).isSome }] }
  command := fun r => .watch {
    reconnectDelay := (r.use? "--reconnect-delay").map (·.bind readDecimal) } }

def enableForm : Form := { grammar := {}, command := fun _ => .edit .enable }

def disableForm : Form := { grammar := {}, command := fun _ => .edit .disable }

def setWebhookForm : Form := {
  grammar := {
    switches := [{ names := ["--location"], takesValue := true }]
    places := [{ count := .one }] }
  command := fun r => .edit (.setWebhook (r.textAt 0) (match r.use? "--location" with
    | none => .null
    | some none => .arr []
    | some (some location) => .str location)) }

def setAlertForm : Form := {
  grammar := { places := [{ count := .some }] }
  command := fun r => .edit (.setAlert (" ".intercalate (r.wordsAt 0))) }

def addForm : Form := {
  grammar := { places := [{ count := .one }] }
  command := fun r => .edit (.add (r.textAt 0)) }

def removeForm : Form := {
  grammar := { places := [{ count := .one }] }
  command := fun r => .edit (.remove (r.textAt 0)) }

def setFilterAlertForm : Form := {
  grammar := { places := [{ count := .one }, { count := .many }] }
  command := fun r => .edit (.setFilterAlert (r.textAt 0) (joined? (r.wordsAt 1))) }

def listForm : Form := {
  grammar := { places := [{ count := .optional, accepts := fun text => (integer? text).isSome }] }
  command := fun r => .edit (.list (((r.wordsAt 0).head?.bind integer?).getD 1)) }

def checkForm : Form := {
  grammar := {
    switches := [{ names := ["--reference"], takesValue := true }]
    places := [{ count := .one }, { count := .one }] }
  command := fun r => .check {
    query := r.textAt 0, item := r.textAt 1, reference := r.value? "--reference" } }

/-- The form of the command with a name. -/
def form? : String → Option Form
  | "run" => some watchForm
  | "enable" => some enableForm
  | "disable" => some disableForm
  | "set-webhook" => some setWebhookForm
  | "set-alert" => some setAlertForm
  | "add" => some addForm
  | "remove" => some removeForm
  | "set-filter-alert" => some setFilterAlertForm
  | "list" => some listForm
  | "check" => some checkForm
  | _ => none

/-- A command line that has been read.  Without a command the program tells how it is used. -/
structure Line where
  isVerbose : Bool
  logsJson : Bool
  command : Option Command

namespace Line

/-- The options of the program. -/
def grammar : Grammar := { switches := [
  { names := ["-v", "--verbose"] }, { names := ["--json-logs"] }] }

/-- The command line of a reading. -/
def ofReading (r : Grammar.Reading) (command : Option Command) : Line :=
  { isVerbose := r.flags.contains "--verbose", logsJson := r.flags.contains "--json-logs", command }

/-- Reads words, of which the first plain one names the command; `fuel` bounds their number. -/
def readFrom : Nat → Grammar.Reading → List Word → Except Stop Line
  | 0, _, _ => .error .refused
  | _, r, [] => if r.hasSurplus then .error .refused else .ok (ofReading r none)
  | fuel + 1, r, w :: rest =>
    if w.isOption then do
      let (r, rest) ← grammar.readOption r w rest
      readFrom fuel r rest
    else
      match form? w.text with
      | none => .error .refused
      | some form => do
        let own ← form.grammar.read (rest.map Word.text)
        if r.hasSurplus || own.hasSurplus then throw .refused
        return ofReading r (some (form.command own))

/-- Reads a command line. -/
def read (line : List String) : Except Stop Line := do
  let words ← grammar.words line
  readFrom (words.length + 1) {} words

end Line

end Command

end FeedWatch
