import FeedWatch.Json.Printer

/-!
# Reports

A command reports one JSON object: what it did, or why it was not done.  A refusal is foreseen by
the command and names its kind; any other failure names the command.  Every report bears the time.
-/

namespace FeedWatch.Command

/-- What a command has to report. -/
inductive Report
  | done (members : List (String × Json))
  | refused (kind message : String)
  | failed (command message : String)

namespace Report

/-- The report as JSON. -/
def toJson (stamp : String) : Report → Json
  | done members =>
    .obj ([("status", .str "ok")] ++ members ++ [("query_timestamp", .str stamp)])
  | refused kind message => .obj [
    ("error", .str kind), ("message", .str message), ("query_timestamp", .str stamp)]
  | failed command message => .obj [
    ("error", .str "command_error"), ("command", .str command), ("message", .str message),
    ("query_timestamp", .str stamp)]

/-- The text of a report. -/
def text (stamp : String) (r : Report) : String := (r.toJson stamp).indented ++ "\n"

/-- The code with which the program ends after a report. -/
def code : Report → Nat
  | done _ => 0
  | refused .. => 1
  | failed .. => 1

end Report

end FeedWatch.Command
