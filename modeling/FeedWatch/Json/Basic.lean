import FeedWatch.Number.Binary64

/-!
# JSON values

A JSON value keeps whole numbers and binary64 numbers apart, since they are written and compared
differently, and an object keeps its members in the order in which their keys came first.
-/

namespace FeedWatch

/-- A JSON value. -/
inductive Json
  | null
  | bool (b : Bool)
  | int (i : Int)
  | real (x : Binary64)
  | str (s : String)
  | arr (elements : List Json)
  | obj (members : List (String × Json))

namespace Json

/-- Sets a member: a key that is there keeps its place, a new one comes last. -/
def setMember (key : String) (value : Json) : List (String × Json) → List (String × Json)
  | [] => [(key, value)]
  | (k, v) :: rest => if k = key then (k, value) :: rest else (k, v) :: setMember key value rest

/-- The members that a list of settings leaves, an earlier value giving way to a later one. -/
def members (settings : List (String × Json)) : List (String × Json) :=
  settings.foldl (fun members (key, value) => setMember key value members) []

/-- Whether a value counts as filled in: it is not null, false, zero or empty. -/
def isFilled : Json → Bool
  | null => false
  | bool b => b
  | int i => i != 0
  | real x => !x.isZero
  | str s => s != ""
  | arr elements => !elements.isEmpty
  | obj members => !members.isEmpty

/-- A text, or null in place of none. -/
def ofText? : Option String → Json
  | none => null
  | some s => str s

/-- A natural number. -/
def nat (n : Nat) : Json := int n

end Json

end FeedWatch
