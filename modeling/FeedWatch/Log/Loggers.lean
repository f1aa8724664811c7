import FeedWatch.Config
import FeedWatch.Log.Record

/-!
# Loggers

Loggers have dotted names.  A logger hands the records that are severe enough to its handlers and
then, if it propagates, to the next logger above it; the root stands above all others and has an
observer of its own.  A logger whose level is zero takes the level of the next logger above it.

A logger that is asked for by name is set up once: it gets the level that holds and the shared
handler, and does not propagate.  Resetting hands the loggers of the package over to the root; they
stay set up, and a new shared handler is made when the next one is needed.
-/

namespace FeedWatch.Log

/-- A logger.  Handlers are named by their numbers. -/
structure Logger where
  name : String
  level : Int
  propagates : Bool
  handlers : List Nat

/-- What logging a record brings about: what is written by handlers and what the root observes. -/
structure Trace where
  written : String := ""
  observed : List (String × String × String) := []

/-- Why a record is not logged. -/
inductive LogError
  /-- The entry has a name that belongs to the record itself. -/
  | reservedName (name : String)
  | record (e : RecordError)
  /-- The logger cannot be set up, since variables are refused. -/
  | config (faults : Config.Faults)

/-- The wording of an error. -/
def LogError.message : LogError → String
  | reservedName name => "Attempt to overwrite " ++ Text.quoted name ++ " in LogRecord"
  | record e => e.message
  | config faults => Config.refusal faults

/-- The loggers of a run, the forms of the handlers by number, which handler is shared now, which
names have been set up, and the level that overrides the configured one.  Faults of the
configuration matter only where a logger or a handler needs it. -/
structure Loggers where
  config : Except Config.Faults Config
  loggers : List Logger
  forms : List Record.Form
  shared : Option Nat
  known : List String
  override : Option Int

namespace Loggers

/-- The name of the root. -/
def rootName : String := "root"

/-- The loggers at the start: a root that takes warnings and worse. -/
def start (config : Except Config.Faults Config) : Loggers :=
  { config
    loggers := [⟨rootName, Level.warning.severity, true, []⟩]
    forms := [], shared := none, known := [], override := none }

/-- The number of handlers of a logger, among which the observer of the root counts. -/
def handlerCount (l : Logger) : Nat := l.handlers.length + if l.name = rootName then 1 else 0

/-- The logger that a name stands for; the empty name stands for the root. -/
def properName (name : String) : String := if name = "" then rootName else name

def find? (name : String) (ls : Loggers) : Option Logger := ls.loggers.find? (·.name == name)

def alter (name : String) (f : Logger → Logger) (ls : Loggers) : Loggers :=
  { ls with loggers := ls.loggers.map fun l => if l.name == name then f l else l }

/-- The names above a name that is given from its end, the nearest first.  A point at the very end
of such a name does not divide it again; `fuel` bounds the length. -/
def namesAbove : Nat → List Char → List String
  | 0, _ => []
  | fuel + 1, s =>
    match (s.dropWhile (· != '.')).drop 1 with
    | [] => []
    | c :: rest => String.ofList (c :: rest).reverse :: namesAbove fuel rest

/-- The logger itself and those above it, the nearest first and the root last. -/
def lineage (l : Logger) (ls : Loggers) : List Logger :=
  if l.name = rootName then [l]
  else
    l :: (namesAbove l.name.length l.name.toList.reverse).filterMap ls.find? ++
      (ls.find? rootName).toList

/-- The level that holds for a logger. -/
def levelOf (l : Logger) (ls : Loggers) : Int :=
  (((ls.lineage l).find? (·.level != 0)).map Logger.level).getD 0

/-- The shared handler, made if there is none. -/
def withShared (ls : Loggers) : Except LogError (Loggers × Nat) :=
  match ls.shared, ls.config with
  | some h, _ => .ok (ls, h)
  | none, .error faults => .error (.config faults)
  | none, .ok c =>
    let form := if c.logsJson then Record.Form.json else .text
    .ok ({ ls with forms := ls.forms ++ [form], shared := some ls.forms.length }, ls.forms.length)

/-- The level of a logger that is set up now. -/
def newLevel (ls : Loggers) : Except LogError Int :=
  match ls.override, ls.config with
  | some level, _ => .ok level
  | none, .error faults => .error (.config faults)
  | none, .ok c => .ok c.effectiveLevel.severity

/-- Sets a logger up. -/
def setUp (name proper : String) (ls : Loggers) : Except LogError Loggers := do
  let level ← ls.newLevel
  let (ls, h) ← ls.withShared
  let ls := ls.alter proper fun l =>
    { l with
      level, propagates := false
      handlers := if l.handlers.contains h then l.handlers else l.handlers ++ [h] }
  return { ls with known := ls.known ++ [name] }

/-- The logger with a name, set up when it is asked for first. -/
def get (name : String) (ls : Loggers) : Except LogError (Loggers × Logger) := do
  let proper := properName name
  let fresh : Logger := ⟨proper, 0, true, []⟩
  let ls ←
    if ls.known.contains name then pure ls
    else if (ls.find? proper).isSome then ls.setUp name proper
    else ({ ls with loggers := ls.loggers ++ [fresh] } : Loggers).setUp name proper
  return (ls, (ls.find? proper).getD fresh)

/-- Sets the level of every logger set up so far or later. -/
def setLevel (level : Int) (ls : Loggers) : Loggers :=
  let proper := ls.known.map properName
  { ls with
    override := some level
    loggers := ls.loggers.map fun l => if proper.contains l.name then { l with level } else l }

/-- Applies the choices made for a run; those not made stay as they are.  The level is set first,
and stays even if the form cannot be. -/
def configure (level : Option Int) (form : Option Record.Form) (ls : Loggers) :
    Loggers × Except LogError Unit :=
  let ls := match level with
    | some level => ls.setLevel level
    | none => ls
  match form with
  | none => (ls, .ok ())
  | some form =>
    match ls.withShared with
    | .error e => (ls, .error e)
    | .ok (ls, h) => ({ ls with forms := ls.forms.set h form }, .ok ())

/-- The name of the package, which is also the name above all its loggers. -/
def package : String := "mystic_alert"

/-- Whether a logger belongs to the package. -/
def ofPackage (l : Logger) : Bool :=
  l.name == package || (package ++ ".").toList.isPrefixOf l.name.toList

/-- Hands the loggers of the package over to the root. -/
def reset (ls : Loggers) : Loggers :=
  { ls with
    loggers := ls.loggers.map fun l =>
      if ofPackage l then
        { l with
          propagates := true, level := 0
          handlers := l.handlers.filter (some · != ls.shared) }
      else l
    shared := none, override := none }

/-- Whether a logger takes records of a severity.  Severities of zero and less are never taken. -/
def takes (severity : Int) (l : Logger) (ls : Loggers) : Bool :=
  0 < severity && ls.levelOf l ≤ severity

/-- The loggers that see a record, from the logger it is given to. -/
def audience : List Logger → List Logger
  | [] => []
  | l :: above => if l.propagates then l :: audience above else [l]

/-- Writes a record by the handlers of a logger. -/
def handle (r : Record) (ls : Loggers) (l : Logger) : Except LogError Trace := do
  let written ← l.handlers.mapM fun h =>
    ((r.written (ls.forms.getD h .text)).mapError LogError.record).map (· ++ "\n")
  let message ← r.message.mapError LogError.record
  return {
    written := String.join written
    observed := if l.name = rootName then [(r.logger.shown, r.level.shown, message)] else [] }

/-- Logs a record with the logger of a name. -/
def log (name : String) (severity : Int) (pattern : Json) (arguments : List Json)
    (entries : List (String × Json)) (micros : Int) (ls : Loggers) :
    Loggers × Except LogError Trace :=
  match ls.get name with
  | .error e => (ls, .error e)
  | .ok (ls, l) =>
    (ls, do
      if !ls.takes severity l then return {}
      if let some (name, _) := entries.find? fun (name, _) => Record.isReserved name then
        throw (.reservedName name)
      let created ← (Record.seconds 1000000 (.int micros)).mapError LogError.record
      let r := (Record.new (.str l.name) (.str (severityLabel severity)) pattern arguments
        created .nothing).setAll entries
      let traces ← (audience (ls.lineage l)).mapM (ls.handle r)
      return {
        written := String.join (traces.map Trace.written)
        observed := traces.flatMap Trace.observed })

end Loggers

end FeedWatch.Log
