import FeedWatch.Json.Reader
import FeedWatch.Text.Utf8

/-!
# Reading JSON bytes

JSON may come as bytes in UTF-8, UTF-16 or UTF-32.  A byte order mark names the encoding; without
one the zero bytes among the first four do, since a JSON text starts with an ASCII character.

In every encoding a half of a pair may stand alone.  It counts as one character, and becomes the
replacement character.
-/

namespace FeedWatch.Json

/-- An encoding of a text, and the number of bytes of its mark in front. -/
inductive Encoding
  | utf8 (mark : Nat)
  | utf16 (bigEndian : Bool) (mark : Nat)
  | utf32 (bigEndian : Bool) (mark : Nat)
deriving DecidableEq

/-- The byte order marks with the encodings that they name; a mark that begins with another one
comes first. -/
def Encoding.marks : List (List UInt8 × Encoding) := [
  ([0, 0, 0xfe, 0xff], .utf32 true 4), ([0xff, 0xfe, 0, 0], .utf32 false 4),
  ([0xfe, 0xff], .utf16 true 2), ([0xff, 0xfe], .utf16 false 2), ([0xef, 0xbb, 0xbf], .utf8 3)]

/-- The encoding that the zeros among the first bytes name. -/
def Encoding.ofZeros : List UInt8 → Encoding
  | a :: b :: c :: d :: _ =>
    if a == 0 then if b == 0 then .utf32 true 0 else .utf16 true 0
    else if b == 0 then if c == 0 && d == 0 then .utf32 false 0 else .utf16 false 0
    else .utf8 0
  | [a, b] => if a == 0 then .utf16 true 0 else if b == 0 then .utf16 false 0 else .utf8 0
  | _ => .utf8 0

/-- The encoding that the first bytes announce. -/
def Encoding.detect (bytes : List UInt8) : Encoding :=
  match marks.find? fun m => m.1.isPrefixOf bytes with
  | some (_, encoding) => encoding
  | none => ofZeros bytes

/-- The units of sixteen bits of some bytes; none if a byte is left over. -/
def units16 (bigEndian : Bool) : List UInt8 → Option (List Nat)
  | [] => some []
  | [_] => none
  | a :: b :: rest => do
    let unit := if bigEndian then a.toNat * 256 + b.toNat else b.toNat * 256 + a.toNat
    return unit :: (← units16 bigEndian rest)

/-- The characters of units of sixteen bits. -/
def charsOfUnits : List Nat → List Char
  | [] => []
  | [n] => [unitChar n]
  | n :: m :: rest =>
    if isHighHalf n && isLowHalf m then pairChar n m :: charsOfUnits rest
    else unitChar n :: charsOfUnits (m :: rest)

/-- The characters of units of thirty-two bits; none if bytes are left over or a unit is no
character. -/
def chars32 (bigEndian : Bool) : List UInt8 → Option (List Char)
  | [] => some []
  | a :: b :: c :: d :: rest => do
    let unit :=
      if bigEndian then ((a.toNat * 256 + b.toNat) * 256 + c.toNat) * 256 + d.toNat
      else ((d.toNat * 256 + c.toNat) * 256 + b.toNat) * 256 + a.toNat
    if unit < 0x110000 then return unitChar unit :: (← chars32 bigEndian rest) else none
  | _ => none

/-- What a first byte announces; the bytes of a half of a pair are let through. -/
def leadByte (b : Nat) : Option (Nat × List (Nat × Nat)) :=
  if b = 0xed then some (0xd, [(0x80, 0xbf), (0x80, 0xbf)]) else Text.leadByte b

/-- The characters of bytes in UTF-8; none if they are none.  `fuel` bounds their number. -/
def chars8 : Nat → List UInt8 → Option (List Char)
  | 0, _ => some []
  | _, [] => some []
  | fuel + 1, b :: bytes => do
    let (bits, ranges) ← leadByte b.toNat
    let (code, rest) := Text.followBytes bits ranges bytes
    return unitChar (← code) :: (← chars8 fuel rest)

/-- The text of some bytes in an encoding. -/
def Encoding.decode? (bytes : List UInt8) : Encoding → Option (List Char)
  | utf8 mark => chars8 bytes.length (bytes.drop mark)
  | utf16 bigEndian mark => (units16 bigEndian (bytes.drop mark)).map charsOfUnits
  | utf32 bigEndian mark => chars32 bigEndian (bytes.drop mark)

/-- Why bytes hold no JSON value. -/
inductive BytesError
  /-- The bytes are no text in the encoding that they announce. -/
  | undecodable
  | text (e : ReadError)
deriving DecidableEq

/-- Reads JSON bytes; a second byte order mark is no part of a JSON text. -/
def readBytes (bytes : ByteArray) : Except BytesError Json :=
  match (Encoding.detect bytes.toList).decode? bytes.toList with
  | none => .error .undecodable
  | some text => (wholeValue text).mapError fun failure => .text (failure.toError text)

end FeedWatch.Json
