import FeedWatch.Number.Binary64
import FeedWatch.Number.Integer

/-!
# Decimal numerals

A decimal numeral has digits, possibly a decimal point among them and a power of ten behind them, or
it is one of the words for infinity and not-a-number in any case.  The number it denotes is the
binary64 number nearest to it.
-/

namespace FeedWatch

namespace Numeral

/-- ASCII digits at the front of a text, and the rest. -/
def digits (s : List Char) : List Char × List Char :=
  (s.takeWhile Text.isAsciiDigit, s.dropWhile Text.isAsciiDigit)

/-- The power of ten at the front of a text, zero if there is none, and the rest. -/
def power (s : List Char) : Int × List Char :=
  match s with
  | c :: rest =>
    if c = 'e' || c = 'E' then
      let (negative, rest) := sign rest
      match digits rest with
      | ([], _) => (0, s)
      | (ds, rest) =>
        (if negative then -(digitsValue ds : Int) else digitsValue ds, rest)
    else (0, s)
  | [] => (0, [])

/-- The number that whole digits, decimal places and a power of ten denote. -/
def ofParts (negative : Bool) (whole places : List Char) (power : Int) : Binary64 :=
  .ofDecimal negative (digitsValue (whole ++ places)) (power - places.length)

/-- A word in any case of its ASCII letters. -/
def isWord (word : String) (s : List Char) : Bool := s.map Char.toLower == word.toList

/-- Reads a decimal numeral that is the whole text. -/
def decimal? (s : List Char) : Option Binary64 :=
  let (negative, s) := sign s
  if isWord "inf" s || isWord "infinity" s then some (.infinite negative)
  else if isWord "nan" s then some .nan
  else
    let (whole, rest) := digits s
    let (places, rest) := match rest with
      | '.' :: rest => digits rest
      | rest => ([], rest)
    if whole.isEmpty && places.isEmpty then none
    else
      let (power, rest) := power rest
      if rest.isEmpty then some (ofParts negative whole places power) else none

/-- Leaves out the underscores of a text, each of which must stand between two ASCII digits;
`before` is the character before the text. -/
def withoutUnderscores (before : Char) : List Char → Option (List Char)
  | [] => if before = '_' then none else some []
  | c :: rest =>
    if c = '_' then
      if Text.isAsciiDigit before then withoutUnderscores c rest else none
    else if before = '_' && !Text.isAsciiDigit c then none
    else (withoutUnderscores c rest).map (c :: ·)

end Numeral

/-- Reads a decimal numeral with digits of any script, blanks around it and single underscores
between digits. -/
def readDecimal (text : String) : Option Binary64 :=
  (Numeral.withoutUnderscores ' '
    (Text.trim Text.isBlank (Numeral.plain text.toList))).bind Numeral.decimal?

end FeedWatch
