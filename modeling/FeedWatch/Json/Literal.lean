import FeedWatch.Json.Basic
import FeedWatch.Number.Shortest
import FeedWatch.Text.Quoted

/-!
# The display text of a value

Where a text is wanted and another value comes, the value is shown: a text as itself, anything else
in literal notation, in which texts are quoted and the words for null, true and false are
capitalised.
-/

namespace FeedWatch.Json

mutual

/-- The literal notation of a value. -/
def literal : Json → String
  | null => "None"
  | bool true => "True"
  | bool false => "False"
  | int i => toString i
  | real x => x.toText
  | str s => Text.quoted s
  | arr vs => "[" ++ elementLiterals vs ++ "]"
  | obj fs => "\x7b" ++ memberLiterals fs ++ "\x7d"

/-- The elements of a list in literal notation. -/
def elementLiterals : List Json → String
  | [] => ""
  | [v] => literal v
  | v :: vs => literal v ++ ", " ++ elementLiterals vs

/-- The members of an object in literal notation. -/
def memberLiterals : List (String × Json) → String
  | [] => ""
  | [(k, v)] => Text.quoted k ++ ": " ++ literal v
  | (k, v) :: fs => Text.quoted k ++ ": " ++ literal v ++ ", " ++ memberLiterals fs

end

/-- The display text of a value. -/
def shown : Json → String
  | str s => s
  | v => literal v

end FeedWatch.Json
