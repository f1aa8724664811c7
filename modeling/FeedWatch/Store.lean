import FeedWatch.Document
import FeedWatch.Json.Printer
import FeedWatch.Settings

/-!
# The settings file

The settings are kept in one JSON file, which is written as a whole.  Without a file the settings
are those of a new installation.  A file that is there but cannot be read is refused, and the cause
says whether it is no document or a document of another shape.
-/

namespace FeedWatch

/-- The place of the settings file, and what commands start with. -/
structure Store where
  path : Path
  marker : String

/-- Why the settings cannot be read. -/
inductive LoadError
  | document (e : DocumentError)
  | invalid (path : Path) (cause : Json.Mismatch)

namespace LoadError

/-- The wording for settings of the wrong shape, without the cause. -/
def invalidSummary : String := "Invalid settings file"

/-- The wording of the refusal. -/
def message : LoadError → String
  | document e => e.message
  | invalid path cause => invalidSummary ++ " " ++ Path.text path ++ ": " ++ cause.written

end LoadError

namespace Store

/-- When the settings file was changed last, if it is there. -/
def stamp? (store : Store) (d : Disk) : Option Nat := d.stamp? store.path

/-- Loads the settings. -/
def load (store : Store) (d : Disk) : Except LoadError Settings :=
  match d.exists? store.path with
  | .error e => .error (.document (.disk e))
  | .ok false => .ok (.initial store.marker)
  | .ok true =>
    match Document.read store.path d with
    | .error e => .error (.document e)
    | .ok v => (Settings.ofJson store.marker v).mapError (.invalid store.path)

/-- The content of the file that keeps the settings. -/
def fileContent (s : Settings) : ByteArray := s.toJson.indented.toUTF8

/-- Saves the settings, `stop` naming a stage at which something else goes wrong. -/
def saveUnless (stop : Option Disk.Stage) (store : Store) (s : Settings) (d : Disk) :
    Disk × Except Disk.ReplaceError Unit :=
  d.replace stop store.path (fileContent s)

/-- Saves the settings. -/
def save (store : Store) (s : Settings) (d : Disk) : Disk × Except Disk.ReplaceError Unit :=
  store.saveUnless none s d

end Store

end FeedWatch
