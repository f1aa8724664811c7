import FeedWatch.Json.Mismatch

/-!
# Alert settings

The settings say whether alerts are on, which filters there are, the text of every alert and the
webhook that alerts go to.  They are kept as a JSON object; in an older form of it a filter is just
its name.
-/

namespace FeedWatch

/-- A filter as it is kept: its query text, and its own alert text or null. -/
structure StoredFilter where
  name : String
  alert : Json

/-- The credentials of a webhook, and the place it belongs to. -/
structure Webhook where
  id : String
  token : String
  location : Json

/-- The settings of all alerts. -/
structure Settings where
  enabled : Bool
  filters : List StoredFilter
  alert : String
  webhook : Option Webhook

namespace StoredFilter

/-- Reads a filter, in the current or the older form. -/
def ofJson : Json → Except Json.Mismatch StoredFilter
  | .str name => .ok { name, alert := .null }
  | v => do
    let name := (← v.member "name").shown
    return { name, alert := ← v.memberOrNull "alert" }

/-- The current form of a filter. -/
def toJson (f : StoredFilter) : Json := .obj [("name", .str f.name), ("alert", f.alert)]

end StoredFilter

namespace Webhook

/-- The address that alerts are posted to. -/
def url (w : Webhook) : String := "https://discord.com/api/webhooks/" ++ w.id ++ "/" ++ w.token

/-- The names between the slashes of an address. -/
def segments (url : String) : List String :=
  ((url.toList.splitOn '/').map String.ofList).filter (· != "")

/-- Reads the credentials off an address that ends in `webhooks`, an id and a token. -/
def ofUrl? (url : String) (location : Json) : Option Webhook :=
  match (segments url).reverse with
  | token :: id :: "webhooks" :: _ => some { id, token, location }
  | _ => none

/-- The wording for an address that is none of a webhook. -/
def notUrl (url : String) : String := "Not a Discord webhook URL: " ++ url

/-- Reads a webhook; a value that is not filled in is none. -/
def ofJson? (v : Json) : Except Json.Mismatch (Option Webhook) := do
  if !v.isFilled then return none
  let (id, token) ← (← v.member "login").pair
  return some { id := id.shown, token := token.shown, location := ← v.memberOrNull "location" }

/-- The kept form of a webhook. -/
def toJson (w : Webhook) : Json :=
  .obj [("login", .arr [.str w.id, .str w.token]), ("location", w.location)]

end Webhook

namespace Settings

/-- The query of the one filter of a new installation. -/
def firstFilter : String := "tokens0+"

/-- The alert text until one is set; `marker` is what commands start with. -/
def firstAlert (marker : String) : String :=
  "use `" ++ marker ++ " setalert [alert]` to change this text"

/-- The settings of a new installation. -/
def initial (marker : String) : Settings :=
  { enabled := false, filters := [{ name := firstFilter, alert := .null }]
    alert := firstAlert marker, webhook := none }

/-- Reads the settings. -/
def ofJson (marker : String) (v : Json) : Except Json.Mismatch Settings := do
  let filters ← (← (← v.memberOrNull "filters").seriesOrNone).mapM StoredFilter.ofJson
  let alert := match ← v.memberOrNull "alert" with
    | .null => firstAlert marker
    | alert => alert.shown
  let enabled := (← v.memberOrNull "enabled").isFilled
  let webhook ← Webhook.ofJson? (← v.memberOrNull "webhook")
  return { enabled, filters, alert, webhook }

/-- The kept form of the settings; without a webhook it has no such member. -/
def toJson (s : Settings) : Json :=
  .obj ([("enabled", .bool s.enabled), ("filters", .arr (s.filters.map StoredFilter.toJson)),
    ("alert", .str s.alert)] ++
    match s.webhook with
    | some w => [("webhook", w.toJson)]
    | none => [])

end Settings

end FeedWatch
