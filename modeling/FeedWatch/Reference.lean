import FeedWatch.Json.Mismatch
import FeedWatch.Names
import FeedWatch.Text.Lower

/-!
# The enchant reference

The reference groups enchants into classes.  The index maps each class to its enchants and each
enchant to its classes; class names are kept in lower case, as queries are.
-/

namespace FeedWatch

/-- The two maps between enchants and classes. -/
structure ReferenceIndex where
  enchantClasses : NameTable
  classEnchants : NameTable
deriving DecidableEq

namespace ReferenceIndex

/-- The index without classes. -/
def empty : ReferenceIndex := ⟨.empty, .empty⟩

/-- Adds a class, without enchants if it is new. -/
def addClass (name : String) (index : ReferenceIndex) : ReferenceIndex :=
  { index with classEnchants := index.classEnchants.touch (Text.lower name) }

/-- Adds an enchant to a class. -/
def addEnchant (name enchant : String) (index : ReferenceIndex) : ReferenceIndex :=
  { enchantClasses := index.enchantClasses.add enchant (Text.lower name)
    classEnchants := index.classEnchants.add (Text.lower name) enchant }

/-- The index of the given classes and their enchants. -/
def ofClasses (classes : List (String × List String)) : ReferenceIndex :=
  classes.foldl (fun index (name, enchants) =>
    enchants.foldl (fun index enchant => index.addEnchant name enchant) (index.addClass name)) empty

/-- Whether a class is known. -/
def hasClass (index : ReferenceIndex) (name : String) : Bool := index.classEnchants.hasKey name

/-- The enchants of a class. -/
def enchantsIn (index : ReferenceIndex) (name : String) : NameSet := index.classEnchants.find name

/-- The pairs of a class and an enchant that an entry of the reference document yields. -/
def entryPairs (enchant : String) (entry : Json) :
    Except Json.Mismatch (List (String × String)) := do
  let classes ← (← entry.memberOrNull "Classes").seriesOrNone
  return classes.map fun name => (name.shown, enchant)

/-- The members of an object. -/
def entries : Json → Except Json.Mismatch (List (String × Json))
  | .obj members => .ok members
  | v => .error (.notObject v "items")

/-- Lists an enchant under the name of a class as it is written; a new name comes last. -/
def listUnder (name enchant : String) :
    List (String × List String) → List (String × List String)
  | [] => [(name, [enchant])]
  | (n, enchants) :: rest =>
    if n = name then (n, enchants ++ [enchant]) :: rest
    else (n, enchants) :: listUnder name enchant rest

/-- The classes that pairs of a class and an enchant list, as they are written. -/
def group (pairs : List (String × String)) : List (String × List String) :=
  pairs.foldl (fun classes (name, enchant) => listUnder name enchant classes) []

/-- The index of a reference document. -/
def ofJson (v : Json) : Except Json.Mismatch ReferenceIndex := do
  let mystics ← entries (← (← v.member "Pit").member "Mystics")
  let pairs ← mystics.mapM fun (enchant, entry) => entryPairs enchant entry
  return ofClasses (group pairs.flatten)

/-- The wording under which a cause is reported for a reference document. -/
def malformed : String := "Malformed reference data"

end ReferenceIndex

end FeedWatch
