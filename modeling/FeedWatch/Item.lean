import FeedWatch.Json.Mismatch
import FeedWatch.Names

/-!
# Items

An item as the feed describes it: its enchants in order, its flags, and numbers that the feed may
leave out.  `Item.ofJson` reads an item out of a JSON value, part by part in a fixed order, and
reports the first part that does not fit.
-/

namespace FeedWatch

/-- An enchant of an item: its key and its level. -/
structure Enchant where
  key : String
  level : Int
deriving DecidableEq

/-- An item; a number that the feed leaves out is none. -/
structure Item where
  id : String
  enchants : List Enchant
  flags : NameSet
  typeId : Int
  lives : Option Int
  maxLives : Option Int
  tokens : Option Int
  nonce : Option Int
  owner : String
  /-- When the item was last seen, as the feed gives it. -/
  lastSeen : Json
  /-- The name of the item's type, as the feed gives it. -/
  typeName : Json

namespace Enchant

/-- Reads an enchant. -/
def ofJson (v : Json) : Except Json.Mismatch Enchant := do
  let key := (← v.member "key").shown
  let level ← (← v.member "level").toInt
  return { key, level }

end Enchant

namespace Item

/-- The colour of an item, a number below five that its nonce decides. -/
def color (item : Item) : Option Int := item.nonce.map (· % 5)

/-- Reads a number that may be missing or null. -/
def optionalInt (key : String) (v : Json) : Except Json.Mismatch (Option Int) := do
  match ← v.memberOrNull key with
  | .null => return none
  | n => return some (← n.toInt)

/-- Reads an item. -/
def ofJson (v : Json) : Except Json.Mismatch Item := do
  let kind ← v.memberOrNull "item"
  let kind := if kind.isFilled then kind else .obj []
  let id := (← v.member "_id").shown
  let enchants ← (← (← v.memberOrNull "enchants").seriesOrNone).mapM Enchant.ofJson
  let flags ← (← v.memberOrNull "flags").seriesOrNone
  let typeId ← ((← kind.member? "id").getD (.int 0)).toInt
  let lives ← optionalInt "lives" v
  let maxLives ← optionalInt "maxLives" v
  let tokens ← optionalInt "tokens" v
  let nonce ← optionalInt "nonce" v
  let owner := ((← v.member? "owner").getD (.str "")).shown
  let lastSeen ← v.memberOrNull "lastseen"
  let typeName ← kind.memberOrNull "name"
  return {
    id, enchants, flags := .ofList (flags.map Json.shown), typeId, lives, maxLives, tokens, nonce
    owner, lastSeen, typeName }

/-- The wording under which a cause is reported for an item. -/
def malformed : String := "Malformed item"

end Item

end FeedWatch
