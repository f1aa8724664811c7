import FeedWatch.Number.Shortest

/-!
# Numbers with a given count of digits

The absolute value of a number is written with a given count of decimal places, or with a given
count of significant digits.  Rounding is exact, and a tie goes to the even digit.
-/

namespace FeedWatch.Binary64

/-- Digits with a point behind the first `whole` of them.  A point with nothing behind it is written
only if it is asked for. -/
def pointed (pointAlways : Bool) (digits : List Char) (whole : Nat) : List Char :=
  let places := digits.drop whole
  digits.take whole ++ (if places.isEmpty && !pointAlways then [] else '.' :: places)

/-- A quotient with a count of decimal places. -/
def fixed (pointAlways : Bool) (places num den : Nat) : List Char :=
  let digits := Nat.toDigits 10 (roundHalfEven (num * Nat.pow 10 places) den)
  let digits := List.replicate (places + 1 - digits.length) '0' ++ digits
  pointed pointAlways digits (digits.length - places)

/-- A quotient rounded to a count of significant digits, which is positive: the digits, and the
power of ten of the first of them. -/
def significant (count num den : Nat) : List Char × Int :=
  if num = 0 then (List.replicate count '0', 0)
  else
    let point := decimalPoint num den
    let shift := (count : Int) - point
    let rounded :=
      if 0 ≤ shift then roundHalfEven (num * Nat.pow 10 shift.toNat) den
      else roundHalfEven num (den * Nat.pow 10 (-shift).toNat)
    let digits := Nat.toDigits 10 rounded
    (digits.take count, point - 1 + ((digits.length : Int) - count))

/-- A quotient with one digit before the point, a count of places behind it, and a power of ten. -/
def scientific (pointAlways : Bool) (places num den : Nat) : List Char :=
  let (digits, power) := significant (places + 1) num den
  pointed pointAlways digits 1 ++ powerText power

private def withoutLastZeros (digits : List Char) : List Char :=
  (digits.reverse.dropWhile (· == '0')).reverse

/-- A quotient with a count of significant digits.  It has a power of ten if that of its first digit
is below -4 or not below the count; the zeros at the end are kept only if they are asked for. -/
def general (zerosAlways : Bool) (count num den : Nat) : List Char :=
  let count := max count 1
  let (digits, power) := significant count num den
  let kept (least : Nat) (digits : List Char) : List Char :=
    if zerosAlways then digits
    else digits.take least ++ withoutLastZeros (digits.drop least)
  if power < -4 || count ≤ power then
    pointed zerosAlways (kept 1 digits) 1 ++ powerText power
  else if power < 0 then
    pointed zerosAlways (kept 1 (List.replicate (-power).toNat '0' ++ digits)) 1
  else pointed zerosAlways (kept (power.toNat + 1) digits) (power.toNat + 1)

end FeedWatch.Binary64
