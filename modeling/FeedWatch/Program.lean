import FeedWatch.Command.Basic

/-!
# The program

A run of the program reads its command line, carries the command out and prints the report.  Every
command but the one that watches prints nothing else.  The configuration comes from the environment
and the working directory.  Its faults matter only where it is needed: at once if the log is to be
in JSON, and otherwise when a command comes to it.
-/

namespace FeedWatch

/-- What a run of the program finds.  `epoch` is the date of time zero and `stopTime` the time at
which the user stops a watcher. -/
structure World where
  environment : List (String × String)
  disk : Disk
  network : Http.Network
  feed : Feed
  epoch : Int
  stopTime : Nat

/-- How a run ends. -/
inductive Exit
  /-- The user asked how the program is used. -/
  | help
  /-- There was no command, so the program tells how it is used. -/
  | usage
  /-- The command line was refused. -/
  | refused
  /-- The log cannot be set up, since variables are refused. -/
  | misconfigured (faults : Config.Faults)
  | code (n : Nat)
deriving DecidableEq

/-- What a run leaves. -/
structure Outcome where
  exit : Exit
  output : String
  world : World

namespace Program

/-- How the program is used. -/
def usage : String :=
  "feed-watch [-v] [--json-logs] <command> [arguments]\n" ++
  "  run [--reconnect-delay SECONDS]\n" ++
  "  enable\n" ++
  "  disable\n" ++
  "  set-webhook URL [--location ID]\n" ++
  "  set-alert TEXT...\n" ++
  "  add QUERY\n" ++
  "  remove QUERY\n" ++
  "  set-filter-alert QUERY [TEXT...]\n" ++
  "  list [PAGE]\n" ++
  "  check QUERY ITEM [--reference FILE]\n"

/-- The code after an interrupt of a command other than the one that watches. -/
def interruptCode : Nat := 130

/-- The date in a report that is made at a time. -/
def stampAt (w : World) (now : Nat) : String := (Moment.ofMicros (w.epoch + now)).stamp

/-- A run that ends with a report, made at a time. -/
def ended (said : String) (r : Command.Report) (now : Nat) (w : World) : Outcome :=
  ⟨.code r.code, said ++ r.text (stampAt w now), w⟩

/-- A run that ends with the failure of a command for want of its configuration. -/
def unconfigured (command : Command) (faults : Config.Faults) (w : World) : Outcome :=
  ended "" (.failed command.name (Config.refusal faults)) 0 w

/-- Carries a command out. -/
def perform (config : Except Config.Faults Config) (w : World) (command : Command) : Outcome :=
  match command with
  | .edit e =>
    match e.flaw? with
    | some error => ended "" (e.report (.error error)) 0 w
    | none =>
      match config with
      | .error faults => unconfigured command faults w
      | .ok config =>
        let (disk, result) := e.perform config.store w.disk
        ended "" (e.report result) 0 { w with disk }
  | .check c =>
    match c.perform config w.disk ⟨w.network, 0⟩ with
    | (line, result) =>
      let w := { w with network := line.network }
      match result with
      | .error (.reference (.trouble .interrupted)) => ⟨.code interruptCode, "", w⟩
      | result => ended "" (Command.Check.report result) line.now w
  | .watch c =>
    match config with
    | .error faults => unconfigured command faults w
    | .ok config =>
      let ending := c.perform config w.epoch w.disk w.network w.feed w.stopTime
      let e := ending.engine
      let w := { w with disk := e.disk, network := e.network, feed := e.feed }
      match ending.report with
      | none => ⟨.code 0, ending.said, w⟩
      | some report => ended ending.said report e.micros w

/-- Runs the program on a command line. -/
def run (line : List String) (w : World) : Outcome :=
  match Command.Line.read line with
  | .error .help => ⟨.help, usage, w⟩
  | .error .refused => ⟨.refused, "", w⟩
  | .ok line =>
    match line.command with
    | none => ⟨.usage, usage, w⟩
    | some command =>
      let config := Config.load w.environment w.disk
      match config, line.logsJson with
      | .error faults, true => ⟨.misconfigured faults, "", w⟩
      | config, _ => perform config w command

end Program

end FeedWatch
