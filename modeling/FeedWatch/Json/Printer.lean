import FeedWatch.Json.Basic
import FeedWatch.Number.Shortest
import FeedWatch.Text.Quoted

/-!
# Writing JSON texts

A JSON text is written on one line, or with one member or element a line, indented by two blanks a
level.  Every character outside printable ASCII is escaped, those beyond the basic plane as a pair
of surrogates, so a written text is ASCII and its texts hold no line break.
-/

namespace FeedWatch.Json

/-- The escape of a unit of sixteen bits. -/
def unitEscape (n : Nat) : List Char := '\\' :: 'u' :: Text.hex 4 n

/-- A character as it stands in a written text. -/
def escapedChar (c : Char) : List Char :=
  if c = '\x22' then ['\\', '\x22']
  else if c = '\\' then ['\\', '\\']
  else if c = '\n' then ['\\', 'n']
  else if c = '\r' then ['\\', 'r']
  else if c = '\t' then ['\\', 't']
  else if c = '\x0c' then ['\\', 'f']
  else if c = '\x08' then ['\\', 'b']
  else if 0x20 ≤ c.toNat && c.toNat ≤ 0x7e then [c]
  else if c.toNat < 0x10000 then unitEscape c.toNat
  else
    unitEscape (0xd800 + (c.toNat - 0x10000) / 0x400) ++
      unitEscape (0xdc00 + (c.toNat - 0x10000) % 0x400)

/-- A text in its quotes. -/
def textChars (s : String) : List Char :=
  '\x22' :: (s.toList.flatMap escapedChar ++ ['\x22'])

/-- The digits of an integer. -/
def intChars (i : Int) : List Char :=
  if i < 0 then '-' :: Nat.toDigits 10 i.natAbs else Nat.toDigits 10 i.natAbs

/-- A binary64 number; the infinities and not-a-number are written as words. -/
def realChars : Binary64 → List Char
  | .nan => "NaN".toList
  | .infinite negative => if negative then "-Infinity".toList else "Infinity".toList
  | x => x.toText.toList

/-- How the parts of a text are set apart. -/
structure Spacing where
  /-- What stands behind an opening bracket and before a closing one, at a depth. -/
  line : Nat → List Char
  /-- What stands behind a comma, at a depth. -/
  next : Nat → List Char

/-- All on one line. -/
def Spacing.inline : Spacing := { line := fun _ => [], next := fun _ => [' '] }

/-- One part a line, indented by two blanks a level. -/
def Spacing.indented : Spacing :=
  { line := fun depth => '\n' :: List.replicate (2 * depth) ' '
    next := fun depth => '\n' :: List.replicate (2 * depth) ' ' }

mutual

/-- The characters of a value that stands at a depth. -/
def chars (sp : Spacing) (depth : Nat) : Json → List Char
  | null => "null".toList
  | bool true => "true".toList
  | bool false => "false".toList
  | int i => intChars i
  | real x => realChars x
  | str s => textChars s
  | arr [] => ['[', ']']
  | arr (v :: vs) =>
    '[' :: (sp.line (depth + 1) ++ chars sp (depth + 1) v ++
      (elementChars sp (depth + 1) vs ++ (sp.line depth ++ [']'])))
  | obj [] => ['\x7b', '\x7d']
  | obj ((k, v) :: fs) =>
    '\x7b' :: (sp.line (depth + 1) ++ (textChars k ++ ':' :: ' ' :: chars sp (depth + 1) v) ++
      (memberChars sp (depth + 1) fs ++ (sp.line depth ++ ['\x7d'])))

/-- The characters of the elements behind the first one. -/
def elementChars (sp : Spacing) (depth : Nat) : List Json → List Char
  | [] => []
  | v :: vs => ',' :: (sp.next depth ++ chars sp depth v ++ elementChars sp depth vs)

/-- The characters of the members behind the first one. -/
def memberChars (sp : Spacing) (depth : Nat) : List (String × Json) → List Char
  | [] => []
  | (k, v) :: fs =>
    ',' :: (sp.next depth ++ (textChars k ++ ':' :: ' ' :: chars sp depth v) ++
      memberChars sp depth fs)

end

/-- A value on one line. -/
def inline (v : Json) : String := String.ofList (chars .inline 0 v)

/-- A value with one part a line. -/
def indented (v : Json) : String := String.ofList (chars .indented 0 v)

end FeedWatch.Json
