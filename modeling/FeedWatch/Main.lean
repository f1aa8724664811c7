import FeedWatch.Program

/-!
# The command line

The outer layer of the program: it looks up the variables and files that a run may need, runs, puts
the settings file back if it has changed, and prints.  It has no network, so nothing is reachable.
-/

namespace FeedWatch.Main

/-- The variables that the configuration knows. -/
def variableNames : List String := [
  "LOG_LEVEL", "DEBUG", "LOG_JSON", "INSTANCE_ROOT", "SETTINGS_FILE", "BOT_PREFIX", "FEED_URL",
  "REFERENCE_URL", "PLAYER_API_URL", "PLAYER_PAGE_URL", "ITEM_IMAGE_URL",
  "HEARTBEAT_INTERVAL_SECONDS", "RECONNECT_DELAY_SECONDS", "ENRICHMENT_TIMEOUT_SECONDS",
  "SETTINGS_REFRESH_SECONDS"].map ("MYSTIC_" ++ ·)

/-- The variables of the environment that the configuration knows. -/
def environment : IO (List (String × String)) := do
  let found ← variableNames.mapM fun name => do
    return (← IO.getEnv name).map fun value => (name, value)
  return found.filterMap id

/-- Takes a file over, if it can be read. -/
def takeFile (disk : Disk) (path : Path) : IO Disk := do
  try
    let disk := (disk.makeFolder path.parent).toOption.getD disk
    return disk.putFile (disk.placeOf path) (← IO.FS.readBinFile path.text)
  catch _ => return disk

/-- The files that a command line needs besides the settings file. -/
def filesOf (line : List String) : List Path :=
  match Command.Line.read line with
  | .ok { command := some (.check c), .. } => (c.item :: c.reference.toList).map .parse
  | _ => []

/-- Microseconds since the start of 1970, by the stamp of a file made for this. -/
def currentMicros : IO Int := do
  let (_, path) ← IO.FS.createTempFile
  let stamp := (← path.metadata).modified
  IO.FS.removeFile path
  return stamp.sec * 1000000 + stamp.nsec.toNat / 1000

end FeedWatch.Main

open FeedWatch FeedWatch.Main

/-- Runs the program. -/
def main (line : List String) : IO UInt32 := do
  let environment ← environment
  let disk ← takeFile .empty Config.dotEnvPath
  let settings := match Config.load environment disk with
    | .ok config => [config.settingsPath]
    | .error _ => []
  let disk ← (settings ++ filesOf line).foldlM takeFile disk
  let outcome := Program.run line {
    environment, disk, network := .ofRoutes [], feed := .ofScript [], epoch := ← currentMicros
    stopTime := 0 }
  for path in settings do
    if let some content := outcome.world.disk.content? path then
      if disk.content? path != some content then
        IO.FS.createDirAll path.parent.text
        IO.FS.writeBinFile path.text content
  match outcome.exit with
  | .refused =>
    IO.eprint Program.usage
    return 2
  | .misconfigured faults =>
    IO.eprintln (Config.refusal faults)
    return 1
  | .help | .usage =>
    IO.print outcome.output
    return 0
  | .code n =>
    IO.print outcome.output
    return n.toUInt32
