import FeedWatch.Item

/-!
# Queries

A query is a conjunction of clauses; a clause is a test of an item, possibly negated.
-/

namespace FeedWatch

/-- How a number is compared with a target. -/
inductive Comparator
  | atLeast
  | atMost
  | equal
deriving DecidableEq

/-- Whether a number stands in the given relation to a target. -/
def Comparator.holds : Comparator → Int → Int → Bool
  | atLeast, observed, target => target ≤ observed
  | atMost, observed, target => observed ≤ target
  | equal, observed, target => observed == target

/-- The sign that selects a comparator. -/
def Comparator.sign : Comparator → String
  | atLeast => "+"
  | atMost => "-"
  | equal => ""

/-- A comparison with a fixed number. -/
structure Comparison where
  comparator : Comparator
  target : Int
deriving DecidableEq

/-- Whether a number passes a comparison. -/
def Comparison.accepts (c : Comparison) (observed : Int) : Bool :=
  c.comparator.holds observed c.target

/-- A number that items have. -/
inductive Attribute
  | tokens
  | enchants
  | lives
  | maxLives
  | color
  | nonce
deriving DecidableEq

namespace Attribute

/-- The name of an attribute in queries. -/
def name : Attribute → String
  | tokens => "tokens"
  | enchants => "enchants"
  | lives => "lives"
  | maxLives => "maxlives"
  | color => "color"
  | nonce => "nonce"

/-- All attributes. -/
def all : List Attribute := [tokens, enchants, lives, maxLives, color, nonce]

/-- The attribute with a name. -/
def ofName? (name : String) : Option Attribute := all.find? (·.name == name)

/-- The value of an attribute of an item, if the item has it. -/
def value? (item : Item) : Attribute → Option Int
  | tokens => item.tokens
  | enchants => some item.enchants.length
  | lives => item.lives
  | maxLives => item.maxLives
  | color => item.color
  | nonce => item.nonce

end Attribute

/-- A type of item that queries can name. -/
inductive ItemType
  | bow
  | sword
  | pants
deriving DecidableEq

namespace ItemType

/-- The name of a type in queries. -/
def name : ItemType → String
  | bow => "bow"
  | sword => "sword"
  | pants => "pants"

/-- The number of a type on items. -/
def id : ItemType → Int
  | bow => 261
  | sword => 283
  | pants => 300

/-- All types. -/
def all : List ItemType := [bow, sword, pants]

/-- The type with a name. -/
def ofName? (name : String) : Option ItemType := all.find? (·.name == name)

end ItemType

/-- A test of an item. -/
inductive Test
  | owner (name : String)
  | measure (a : Attribute) (c : Comparison)
  | classEnchant (name : String) (keys : NameSet) (c : Comparison)
  | enchant (key : String) (c : Comparison)
  | itemType (t : ItemType)
  | flag (name : String)
deriving DecidableEq

/-- The name of the kind of a test in reports. -/
def Test.kindName : Test → String
  | owner _ => "owner"
  | measure .. => "attribute"
  | classEnchant .. => "class_enchant"
  | enchant .. => "enchant"
  | itemType _ => "item_type"
  | flag _ => "flag"

/-- What a test asks about. -/
def Test.key : Test → String
  | owner name => name
  | measure a _ => a.name
  | classEnchant name _ _ => name
  | enchant key _ => key
  | itemType t => t.name
  | flag name => name

/-- Whether an item passes a test. -/
def Test.accepts (item : Item) : Test → Bool
  | owner name => item.owner == name
  | measure a c => (a.value? item).any c.accepts
  | classEnchant _ keys c => item.enchants.any fun e => keys.contains e.key && c.accepts e.level
  | enchant key c => item.enchants.any fun e => e.key == key && c.accepts e.level
  | itemType t => item.typeId == t.id
  | flag name => item.flags.contains name

/-- A test, or its negation. -/
structure Clause where
  negated : Bool
  test : Test
deriving DecidableEq

/-- Whether an item passes a clause. -/
def Clause.accepts (c : Clause) (item : Item) : Bool := c.negated != c.test.accepts item

/-- A query and the text it was compiled from. -/
structure Query where
  source : String
  clauses : List Clause
deriving DecidableEq

/-- Whether an item passes every clause of a query. -/
def Query.accepts (q : Query) (item : Item) : Bool := q.clauses.all (·.accepts item)

end FeedWatch
