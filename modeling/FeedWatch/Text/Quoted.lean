import FeedWatch.Text.Printable

/-!
# Quoted texts

A quoted text stands in single quotes, or in double quotes when it holds a single quote and no
double one.  The quote in use, the backslash and every character that is not printable are escaped.
-/

namespace FeedWatch.Text

/-- The digits of `n` in lower-case hexadecimal, padded with zeros to `width`. -/
def hex (width n : Nat) : List Char :=
  let digits := Nat.toDigits 16 n
  List.replicate (width - digits.length) '0' ++ digits

/-- Texts of this length and longer ones cannot be held. -/
def widthLimit : Nat := 68719476736

/-- The quote that a quoted text stands in. -/
def quoteOf (s : List Char) : Char :=
  if s.contains '\x27' && !s.contains '\x22' then '\x22' else '\x27'

/-- A character as it stands between quotes. -/
def quotedChar (quote c : Char) : List Char :=
  if c = quote || c = '\\' then ['\\', c]
  else if c = '\n' then ['\\', 'n']
  else if c = '\r' then ['\\', 'r']
  else if c = '\t' then ['\\', 't']
  else if isPrintable c then [c]
  else if c.toNat ≤ 0xff then '\\' :: 'x' :: hex 2 c.toNat
  else if c.toNat ≤ 0xffff then '\\' :: 'u' :: hex 4 c.toNat
  else '\\' :: 'U' :: hex 8 c.toNat

/-- A text in quotes. -/
def quotedChars (s : List Char) : List Char :=
  let quote := quoteOf s
  quote :: (s.flatMap (quotedChar quote) ++ [quote])

/-- A text in quotes. -/
def quoted (s : String) : String := String.ofList (quotedChars s.toList)

/-- A text with every character outside ASCII escaped. -/
def asciiOnly (s : List Char) : List Char :=
  s.flatMap fun c =>
    if c.toNat < 0x80 then [c]
    else if c.toNat ≤ 0xff then '\\' :: 'x' :: hex 2 c.toNat
    else if c.toNat ≤ 0xffff then '\\' :: 'u' :: hex 4 c.toNat
    else '\\' :: 'U' :: hex 8 c.toNat

end FeedWatch.Text
