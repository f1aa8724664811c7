import FeedWatch.Calendar
import FeedWatch.Event
import FeedWatch.Settings
import FeedWatch.Text.Template

/-!
# Alerts

An alert is made of an event and the filters that accept its item: the common text with the texts of
these filters, and a card that names the owner, the changes and the filters.
-/

namespace FeedWatch

/-- An alert. -/
structure Alert where
  content : String
  description : String
  imageUrl : String
  time : Moment
  filterNames : List String
  ownerLabel : String

/-- The address templates that alerts use. -/
structure AlertPages where
  player : String
  image : String

/-- The pages that alerts lead to unless others are set. -/
def AlertPages.standard : AlertPages :=
  { player := "https://pitpanda.rocks/players/\x7bowner\x7d"
    image := "https://pitpanda.rocks/api/images/item/\x7bitem_id\x7d" }

namespace Alert

/-- The title of every alert. -/
def title : String := "New Mystic!"

/-- The colour of every alert. -/
def color : Int := 0x3498DB

/-- The common text, and each filter's own text on a line of its own. -/
def text (common : String) (filters : List StoredFilter) : String :=
  filters.foldl (fun written f =>
    if f.alert.isFilled then written ++ "\n" ++ f.alert.shown else written) common

private def marked (names : List String) : String :=
  ", ".intercalate (names.map fun name => "`" ++ name ++ "`")

/-- The card's text: the owner with a link, the changes, and the filters. -/
def describe (label link : String) (tags names : List String) : String :=
  "Owner: [" ++ label ++ "](" ++ link ++ ")\nEvents: " ++ marked tags ++
    "\nPassed filters: " ++ marked names

/-- The label to show for an owner: the given one, unless it is missing or empty. -/
def labelOr (label : Option String) (owner : String) : String :=
  match label with
  | some l => if l.isEmpty then owner else l
  | none => owner

/-- The alert of an event that some filters accept. -/
def ofEvent (pages : AlertPages) (e : Event) (filters : List StoredFilter) (common : String)
    (label : Option String) (time : Moment) : Except Text.TemplateError Alert := do
  let label := labelOr label e.item.owner
  let link ← Text.fillTemplate pages.player [("owner", e.item.owner)]
  let names := filters.map StoredFilter.name
  let imageUrl ← Text.fillTemplate pages.image [("item_id", e.item.id)]
  return {
    content := text common filters, description := describe label link e.tags names
    imageUrl, time, filterNames := names, ownerLabel := label }

/-- What is posted to the webhook. -/
def toJson (a : Alert) : Json := .obj [
  ("content", .str a.content),
  ("embeds", .arr [.obj [
    ("title", .str title), ("description", .str a.description), ("color", .int color),
    ("image", .obj [("url", .str a.imageUrl)]), ("timestamp", .str a.time.toText)]])]

end Alert

end FeedWatch
