/-!
# Reading bytes as UTF-8

A text is read from bytes that may not be UTF-8: each longest start of a character that breaks off,
and each byte that starts none, becomes one replacement character.
-/

namespace FeedWatch.Text

/-- What a first byte announces: the bits it gives, and the range of each byte that follows. -/
def leadByte (b : Nat) : Option (Nat × List (Nat × Nat)) :=
  let next := (0x80, 0xbf)
  if b < 0x80 then some (b, [])
  else if 0xc2 ≤ b && b ≤ 0xdf then some (b - 0xc0, [next])
  else if b = 0xe0 then some (0, [(0xa0, 0xbf), next])
  else if b = 0xed then some (0xd, [(0x80, 0x9f), next])
  else if 0xe1 ≤ b && b ≤ 0xef then some (b - 0xe0, [next, next])
  else if b = 0xf0 then some (0, [(0x90, 0xbf), next, next])
  else if 0xf1 ≤ b && b ≤ 0xf3 then some (b - 0xf0, [next, next, next])
  else if b = 0xf4 then some (4, [(0x80, 0x8f), next, next])
  else none

/-- Adds the bytes that follow to the bits so far, as long as they are in range: the code point if
all are there, and the bytes that were not used. -/
def followBytes (bits : Nat) : List (Nat × Nat) → List UInt8 → Option Nat × List UInt8
  | [], bytes => (some bits, bytes)
  | _ :: _, [] => (none, [])
  | (lo, hi) :: ranges, b :: bytes =>
    if lo ≤ b.toNat && b.toNat ≤ hi then followBytes (bits * 64 + (b.toNat - 0x80)) ranges bytes
    else (none, b :: bytes)

/-- The characters of some bytes; `fuel` bounds their number. -/
def utf8From : Nat → List UInt8 → List Char
  | 0, _ => []
  | _, [] => []
  | fuel + 1, b :: bytes =>
    match leadByte b.toNat with
    | none => '\ufffd' :: utf8From fuel bytes
    | some (bits, ranges) =>
      let (code, rest) := followBytes bits ranges bytes
      (match code with
        | some n => Char.ofNat n
        | none => '\ufffd') :: utf8From fuel rest

/-- The text of some bytes, with replacement characters for what is not UTF-8. -/
def utf8Text (bytes : ByteArray) : String :=
  String.ofList (utf8From bytes.size bytes.toList)

end FeedWatch.Text
