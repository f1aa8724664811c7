import FeedWatch.Config.DotEnv
import FeedWatch.Disk
import FeedWatch.Log.Level
import FeedWatch.Number.Decimal
import FeedWatch.Store
import FeedWatch.Text.Lower
import FeedWatch.Watcher

/-!
# Configuration

The configuration is read from environment variables whose names start with `MYSTIC_`, in any case,
and from the file `.env` in the working directory, whose variables give way to those of the
environment.  Every variable is optional.  If some are refused, all that are refused are reported.
-/

namespace FeedWatch

/-- The settings that hold for a whole run.  Times are in seconds. -/
structure Config where
  logLevel : Log.Level := .info
  isDebug : Bool := false
  logsJson : Bool := false
  root : Path := []
  settingsFile : Option Path := none
  botPrefix : String := "!mystic"
  feedUrl : String := Timing.standard.feedUrl
  referenceUrl : String := ReferenceIndex.defaultUrl
  playerTemplate : String := Owner.defaultTemplate
  pages : AlertPages := .standard
  heartbeatInterval : Binary64 := .ofInt 30
  reconnectDelay : Binary64 := .ofInt 30
  enrichmentTimeout : Binary64 := .ofInt 10
  refreshInterval : Binary64 := .ofInt 5

namespace Config

/-- Why the value of a variable is refused. -/
inductive Fault
  | unknownLevel
  | notFlag
  | notNumber
  | notPositive
  | negative
deriving DecidableEq

/-- The variables that are refused, in alphabetical order. -/
abbrev Faults := List (String × Fault)

/-- What is said of variables that are refused. -/
def refusal (faults : Faults) : String :=
  "Refused variables: " ++ ", ".intercalate (faults.map Prod.fst)

/-- A value with the reason why it does not count. -/
structure Reading (α : Type) where
  value : α
  fault : Option Fault

/-- The variables by name in small letters, without what they all start with. -/
structure Variables where
  environment : List (String × String)
  file : List (String × Option String)

/-- What the name of every variable starts with. -/
def namePrefix : String := "mystic_"

/-- The last value given to a name. -/
def last? {α : Type} (name : String) (vars : List (String × α)) : Option α :=
  vars.reverse.lookup name

/-- The value of a variable. -/
def Variables.get? (vars : Variables) (name : String) : Option String :=
  match last? (namePrefix ++ name) vars.environment with
  | some v => some v
  | none => (last? (namePrefix ++ name) vars.file).join

/-- Variables with their names in small letters. -/
def lowered {α : Type} (vars : List (String × α)) : List (String × α) :=
  vars.map fun (name, value) => (Text.lower name, value)

/-- The variables of an environment and the text of a file. -/
def Variables.of (environment : List (String × String)) (file : Option String) : Variables :=
  { environment := lowered environment
    file := lowered (file.elim [] fun text => DotEnv.values environment (DotEnv.read text)) }

/-- A variable that takes any text. -/
def Variables.text (vars : Variables) (name default : String) : String :=
  (vars.get? name).getD default

/-- A variable whose text is read, `default` counting if there is none. -/
def Variables.read {α : Type} (vars : Variables) (name : String) (default : α)
    (read : String → Except Fault α) : Reading α :=
  match (vars.get? name).map read with
  | none => ⟨default, none⟩
  | some (.ok value) => ⟨value, none⟩
  | some (.error fault) => ⟨default, some fault⟩

def readLevel (s : String) : Except Fault Log.Level :=
  match Log.Level.ofText? s with
  | some level => .ok level
  | none => .error .unknownLevel

/-- Reads a word for yes or no in any case. -/
def readFlag (s : String) : Except Fault Bool :=
  let word := String.ofList (s.toList.map Char.toLower)
  if ["1", "on", "t", "true", "y", "yes"].contains word then .ok true
  else if ["0", "off", "f", "false", "n", "no"].contains word then .ok false
  else .error .notFlag

/-- A text without its underscores, if there are some, each between two other characters. -/
def withoutUnderscores? (s : List Char) : Option (List Char) :=
  let parts := s.splitOn '_'
  if parts.length > 1 && parts.all fun part => !part.isEmpty then some parts.flatten else none

/-- Reads a number with blanks around it or with single underscores inside. -/
def readNumber (s : String) : Except Fault Binary64 :=
  let number := match Numeral.decimal? (Text.trim Text.isBlank s.toList) with
    | some x => some x
    | none => (withoutUnderscores? s.toList).bind Numeral.decimal?
  match number with
  | some x => .ok x
  | none => .error .notNumber

/-- Reads a number above zero. -/
def readPositive (s : String) : Except Fault Binary64 := do
  let x ← readNumber s
  if (Binary64.zero false).isBelow x then .ok x else .error .notPositive

/-- Reads a number that is zero or above. -/
def readNonNegative (s : String) : Except Fault Binary64 := do
  let x ← readNumber s
  if x.isZero || (Binary64.zero false).isBelow x then .ok x else .error .negative

/-- Reads the configuration, or reports the variables that are refused. -/
def ofVariables (vars : Variables) : Except Faults Config :=
  let standard : Config := {}
  let debug := vars.read "debug" standard.isDebug readFlag
  let enrichment := vars.read "enrichment_timeout_seconds" standard.enrichmentTimeout readPositive
  let heartbeat := vars.read "heartbeat_interval_seconds" standard.heartbeatInterval readPositive
  let json := vars.read "log_json" standard.logsJson readFlag
  let level := vars.read "log_level" standard.logLevel readLevel
  let reconnect := vars.read "reconnect_delay_seconds" standard.reconnectDelay readNonNegative
  let refresh := vars.read "settings_refresh_seconds" standard.refreshInterval readPositive
  let faults := [
    ("debug", debug.fault), ("enrichment_timeout_seconds", enrichment.fault),
    ("heartbeat_interval_seconds", heartbeat.fault), ("log_json", json.fault),
    ("log_level", level.fault), ("reconnect_delay_seconds", reconnect.fault),
    ("settings_refresh_seconds", refresh.fault)].filterMap fun (name, fault) =>
      fault.map ((name, ·))
  if faults.isEmpty then
    .ok {
      logLevel := level.value
      isDebug := debug.value
      logsJson := json.value
      root := ((vars.get? "instance_root").map Path.parse).getD standard.root
      settingsFile := (vars.get? "settings_file").map Path.parse
      botPrefix := vars.text "bot_prefix" standard.botPrefix
      feedUrl := vars.text "feed_url" standard.feedUrl
      referenceUrl := vars.text "reference_url" standard.referenceUrl
      playerTemplate := vars.text "player_api_url" standard.playerTemplate
      pages := {
        player := vars.text "player_page_url" standard.pages.player
        image := vars.text "item_image_url" standard.pages.image }
      heartbeatInterval := heartbeat.value
      reconnectDelay := reconnect.value
      enrichmentTimeout := enrichment.value
      refreshInterval := refresh.value }
  else .error faults

/-- Where the file of variables is. -/
def dotEnvPath : Path := [".env"]

/-- The configuration in an environment and a working directory. -/
def load (environment : List (String × String)) (disk : Disk) :
    Except Faults Config :=
  ofVariables (.of environment ((disk.content? dotEnvPath).bind fileText?))

/-- The name of the settings file in its folder. -/
def settingsName : String := "settings.json"

/-- The path of the settings file. -/
def settingsPath (c : Config) : Path := c.settingsFile.getD (c.root ++ [settingsName])

/-- The level of the log.  The debug flag lowers it from the usual one only. -/
def effectiveLevel (c : Config) : Log.Level :=
  if c.isDebug && c.logLevel = .info then .debug else c.logLevel

/-- The settings file with the prefix for a first alert. -/
def store (c : Config) : Store := { path := c.settingsPath, marker := c.botPrefix }

end Config

end FeedWatch
