import FeedWatch.Json.Literal

/-!
# Problems

A problem has a kind and the values it was raised with.  It is written as its kind and, behind a
colon, what it says.  Most kinds say their only value, or all values in brackets.  A missing key is
quoted; a refusal of the system has a number and a reason, and perhaps what it is about; and a
mistake in a text always has a detail.
-/

namespace FeedWatch.Log

/-- A problem that a record reports. -/
structure Problem where
  kind : String
  values : List Json

namespace Problem

/-- The kind of every refusal of the system. -/
def systemKind : String := "OSError"

/-- The kinds of refusals of the system by their numbers. -/
def systemKinds : List (String × List Int) := [
  ("BlockingIOError", [11, 114, 115]), ("BrokenPipeError", [32, 108]), ("ChildProcessError", [10]),
  ("ConnectionAbortedError", [103]), ("ConnectionRefusedError", [111]),
  ("ConnectionResetError", [104]), ("FileExistsError", [17]), ("FileNotFoundError", [2]),
  ("InterruptedError", [4]), ("IsADirectoryError", [21]), ("NotADirectoryError", [20]),
  ("PermissionError", [13, 1]), ("ProcessLookupError", [3]), ("TimeoutError", [110]),
  ("ConnectionError", [])
]

/-- Whether a problem is a refusal of the system. -/
def isOfSystem (p : Problem) : Bool :=
  p.kind = systemKind || systemKinds.any fun (kind, _) => kind = p.kind

/-- The name of a problem's kind.  A number may give a refusal of the system a kind of its own. -/
def name (p : Problem) : String :=
  match p.values with
  | .int n :: _ :: more =>
    if p.kind = systemKind && more.length ≤ 3 then
      ((systemKinds.find? fun (_, numbers) => numbers.contains n).map Prod.fst).getD p.kind
    else p.kind
  | _ => p.kind

/-- What values say. -/
def ofValues : List Json → String
  | [] => ""
  | [v] => v.shown
  | vs => "(" ++ Json.elementLiterals vs ++ ")"

/-- A value that is not null. -/
def given? : Json → Option Json
  | .null => none
  | v => some v

/-- What a refusal of the system says. -/
def ofSystem : List Json → String
  | [number, reason] => "[Errno " ++ number.shown ++ "] " ++ reason.shown
  | vs@(number :: reason :: subject :: more) =>
    if 2 < more.length then ofValues vs
    else
      let start := "[Errno " ++ number.shown ++ "] " ++ reason.shown
      match given? subject, more[1]?.bind given? with
      | none, _ => start
      | some subject, none => start ++ ": " ++ subject.literal
      | some subject, some other => start ++ ": " ++ subject.literal ++ " -> " ++ other.literal
  | vs => ofValues vs

/-- The kinds of mistakes in a text. -/
def mistakeKinds : List String := ["SyntaxError", "IndentationError", "TabError"]

/-- What a problem says. -/
def text (p : Problem) : String :=
  if p.isOfSystem then ofSystem p.values
  else if mistakeKinds.contains p.kind then
    match p.values with
    | v :: _ => if v.isFilled then v.shown else "<no detail available>"
    | [] => "<no detail available>"
  else
    match p.kind, p.values with
    | "KeyError", [v] => v.literal
    | _, vs => ofValues vs

/-- The line for a problem. -/
def written (p : Problem) : String :=
  (if p.text = "" then p.name else p.name ++ ": " ++ p.text) ++ "\n"

end Problem

end FeedWatch.Log
