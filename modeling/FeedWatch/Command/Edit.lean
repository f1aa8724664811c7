import FeedWatch.Command.Report
import FeedWatch.Registry
import FeedWatch.Text.Lower

/-!
# Commands on the settings file

An edit opens a registry on the settings file, works on it, and reports.  Only names and alerts are
kept in the file, so filters are compiled over an empty reference.  Names of filters are taken in
small letters.  A running watcher takes the changes over when it looks at the file next.
-/

namespace FeedWatch.Command

/-- A command on the settings file. -/
inductive Edit
  | enable
  | disable
  | setWebhook (url : String) (location : Json)
  | setAlert (text : String)
  | add (name : String)
  | remove (name : String)
  | setFilterAlert (name : String) (text : Option String)
  | list (page : Int)

/-- The kind of a refusal that commands foresee. -/
def refusal? : RegistryError → Option String
  | .noWebhook => some "webhook_not_configured"
  | .duplicate _ => some "duplicate_filter"
  | .notFound _ => some "filter_not_found"
  | .notUrl _ => some "invalid_webhook"
  | _ => none

namespace Edit

/-- The word for an edit. -/
def name : Edit → String
  | enable => "enable"
  | disable => "disable"
  | setWebhook .. => "set-webhook"
  | setAlert _ => "set-alert"
  | add _ => "add"
  | remove _ => "remove"
  | setFilterAlert .. => "set-filter-alert"
  | list _ => "list"

/-- What a command on the settings file leaves, and the members of its report. -/
abbrev Result := Disk × Except RegistryError (List (String × Json))

/-- Opens a registry, works on it, and tells about it. -/
def work {α : Type} (store : Store) (disk : Disk) (act : Session → Session.Outcome α)
    (tell : Registry → α → List (String × Json)) : Result :=
  match Session.openOn store .empty disk 0 with
  | (disk, .error e) => (disk, .error e)
  | (_, .ok s) =>
    let (s, result) := act s
    (s.disk, result.map (tell s.registry))

/-- The number of filters as a member of a report. -/
def filterCount (r : Registry) : String × Json := ("filter_count", .nat r.filters.length)

/-- What is wrong with an edit whatever the settings are. -/
def flaw? : Edit → Option RegistryError
  | setWebhook url location =>
    if (Webhook.ofUrl? url location).isNone then some (.notUrl url) else none
  | _ => none

/-- Carries an edit out. -/
def perform (store : Store) (disk : Disk) : Edit → Result
  | enable => work store disk Session.enable fun _ _ => [("enabled", .bool true)]
  | disable => work store disk Session.disable fun _ _ => [("enabled", .bool false)]
  | setWebhook url location =>
    match Webhook.ofUrl? url location with
    | none => (disk, .error (.notUrl url))
    | some w => work store disk (Session.setWebhook w) fun _ _ =>
        [("webhook_id", .str w.id), ("location", w.location)]
  | setAlert text => work store disk (Session.setGlobalAlert text) fun _ _ => [("alert", .str text)]
  | add name =>
    let name := Text.lower name
    work store disk (Session.add name) fun r _ => [("added", .str name), filterCount r]
  | remove name =>
    let name := Text.lower name
    work store disk (Session.remove name) fun r count =>
      [("removed", .str name), ("count", .nat count), filterCount r]
  | setFilterAlert name text =>
    let name := Text.lower name
    work store disk (Session.setAlert name text) fun _ _ =>
      [("filter", .str name), ("alert", .ofText? text)]
  | list page =>
    work store disk (fun s => (s, .ok (s.registry.page page))) fun r p =>
      [("enabled", .bool r.settings.enabled), ("alert", .str r.settings.alert)] ++ p.toMembers

/-- The report of an edit. -/
def report (e : Edit) : Except RegistryError (List (String × Json)) → Report
  | .ok members => .done members
  | .error error =>
    match refusal? error with
    | some kind => .refused kind error.message
    | none => .failed e.name error.message

end Edit

end FeedWatch.Command
