import FeedWatch.Number.Integer

/-!
# Severity

A log record has a severity, which may be any whole number.  Five severities have names a
configuration can ask for, and zero is the severity that is not set.
-/

namespace FeedWatch.Log

/-- The severities with a name of their own, the least first. -/
inductive Level
  | debug
  | info
  | warning
  | error
  | critical
deriving DecidableEq

namespace Level

def all : List Level := [debug, info, warning, error, critical]

/-- The number of a level. -/
def severity : Level → Int
  | debug => 10
  | info => 20
  | warning => 30
  | error => 40
  | critical => 50

def label : Level → String
  | debug => "DEBUG"
  | info => "INFO"
  | warning => "WARNING"
  | error => "ERROR"
  | critical => "CRITICAL"

/-- The capital of a letter that can stand in a label.  The dotless i has the same capital as i. -/
def capital (c : Char) : Char := if c = 'ı' then 'I' else c.toUpper

/-- The level whose label is the text in capitals. -/
def ofText? (s : String) : Option Level :=
  all.find? fun level => level.label.toList == s.toList.map capital

/-- Every level is read back from its label. -/
theorem ofText?_label (level : Level) : ofText? level.label = some level := by
  cases level <;> decide

end Level

/-- The label of any severity. -/
def severityLabel (severity : Int) : String :=
  match Level.all.find? (·.severity == severity) with
  | some level => level.label
  | none => if severity = 0 then "NOTSET" else "Level " ++ toString severity

/-- A named severity is written by its name. -/
theorem severityLabel_severity (level : Level) : severityLabel level.severity = level.label := by
  cases level <;> decide

end FeedWatch.Log
