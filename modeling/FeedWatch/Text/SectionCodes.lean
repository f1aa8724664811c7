/-!
# Section codes

Player texts carry colour and style codes: a section sign followed by one character.  Removing them
drops each section sign together with the character after it, whatever that character is; a section
sign that ends the text has nothing after it and stays.
-/

namespace FeedWatch.Text

/-- The sign that starts a code. -/
def sectionSign : Char := '§'

/-- A text without its section codes. -/
def dropSectionCodes : List Char → List Char
  | [] => []
  | [c] => [c]
  | c :: d :: rest =>
    if c = sectionSign then dropSectionCodes rest else c :: dropSectionCodes (d :: rest)

/-- A text without its section codes. -/
def stripSectionCodes (s : String) : String := String.ofList (dropSectionCodes s.toList)

end FeedWatch.Text
