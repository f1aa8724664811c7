/-!
# Binary64 numbers

The numbers of the 64-bit binary format, as exact values: a finite number is a sign, a mantissa and
a power of two.  A quotient of natural numbers is rounded to the nearest number of the format, a tie
going to the even mantissa; from there come decimal numerals and integers.  Everything is done on
natural numbers, so nothing depends on the machine's own arithmetic.
-/

namespace FeedWatch

/-- A binary64 number; `finite negative m e` is `m * 2 ^ e`, negated if `negative`. -/
inductive Binary64
  | finite (negative : Bool) (mantissa : Nat) (exponent : Int)
  | infinite (negative : Bool)
  | nan
deriving DecidableEq

/-- The quotient rounded to the nearest natural number, a tie going to the even one. -/
def roundHalfEven (num den : Nat) : Nat :=
  let q := num / den
  let r := num % den
  if 2 * r < den then q else if den < 2 * r then q + 1 else q + q % 2

namespace Binary64

/-- The exponent of the least positive number, and of every number below `2 ^ 52` times it. -/
def minExponent : Int := -1074

/-- The greatest exponent of a finite number. -/
def maxExponent : Int := 971

/-- The number zero. -/
def zero (negative : Bool) : Binary64 := .finite negative 0 minExponent

/-- `num / den` scaled by `2 ^ (-e)`, as a quotient of natural numbers. -/
def scaled (num den : Nat) (e : Int) : Nat × Nat :=
  if 0 ≤ e then (num, den * Nat.pow 2 e.toNat) else (num * Nat.pow 2 (-e).toNat, den)

/-- The exponent with which `num / den` has a mantissa of 53 bits, or the least one. -/
def exponentOf (num den : Nat) : Int :=
  let guess : Int := (num.log2 : Int) - den.log2 - 52
  let (n, d) := scaled num den guess
  max minExponent (if n < Nat.pow 2 52 * d then guess - 1 else guess)

/-- The number nearest to `num / den`. -/
def ofRatio (negative : Bool) (num den : Nat) : Binary64 :=
  if num = 0 then zero negative
  else
    let e := exponentOf num den
    let (n, d) := scaled num den e
    let m := roundHalfEven n d
    let (m, e) := if m = Nat.pow 2 53 then (Nat.pow 2 52, e + 1) else (m, e)
    if maxExponent < e then .infinite negative else .finite negative m e

/-- The number nearest to `digits * 10 ^ exponent`.  Far outside the range of the format the answer
is known without computing the power. -/
def ofDecimal (negative : Bool) (digits : Nat) (exponent : Int) : Binary64 :=
  if digits = 0 then zero negative
  else if 0 ≤ exponent then
    if 400 < exponent then .infinite negative
    else ofRatio negative (digits * Nat.pow 10 exponent.toNat) 1
  else if 400 + (digits.log2 : Int) < -exponent then zero negative
  else ofRatio negative digits (Nat.pow 10 (-exponent).toNat)

/-- The number nearest to an integer. -/
def ofInt (i : Int) : Binary64 := ofRatio (i < 0) i.natAbs 1

/-- The absolute value of a finite number as a quotient of natural numbers. -/
def ratio (mantissa : Nat) (exponent : Int) : Nat × Nat :=
  if 0 ≤ exponent then (mantissa * Nat.pow 2 exponent.toNat, 1)
  else (mantissa, Nat.pow 2 (-exponent).toNat)

/-- Whether the number is zero. -/
def isZero : Binary64 → Bool
  | .finite _ m _ => m == 0
  | _ => false

/-- Whether the number is finite. -/
def isFinite : Binary64 → Bool
  | .finite .. => true
  | _ => false

/-- Whether the number is below zero. -/
def isNegative : Binary64 → Bool
  | .finite negative m _ => negative && m != 0
  | .infinite negative => negative
  | .nan => false

/-- A finite number in units of `2 ^ unit`, where `unit` is not above its exponent. -/
def inUnits (unit : Int) (negative : Bool) (mantissa : Nat) (exponent : Int) : Int :=
  let n : Int := (mantissa * Nat.pow 2 (exponent - unit).toNat : Nat)
  if negative then -n else n

/-- The number nearest to the sum of two numbers. -/
def add : Binary64 → Binary64 → Binary64
  | .nan, _ | _, .nan => .nan
  | .infinite a, .infinite b => if a = b then .infinite a else .nan
  | .infinite a, .finite .. => .infinite a
  | .finite .., .infinite b => .infinite b
  | .finite a m e, .finite b n f =>
    let unit := min e f
    let sum := inUnits unit a m e + inUnits unit b n f
    if sum = 0 then zero (a && b)
    else
      let (num, den) := ratio sum.natAbs unit
      ofRatio (sum < 0) num den

/-- Whether a number is below another.  What is no number is neither below nor above any. -/
def isBelow : Binary64 → Binary64 → Bool
  | .nan, _ | _, .nan => false
  | .infinite a, .infinite b => a && !b
  | .infinite a, .finite .. => a
  | .finite .., .infinite b => !b
  | .finite a m e, .finite b n f =>
    let unit := min e f
    inUnits unit a m e < inUnits unit b n f

/-- Why a number has no integer part. -/
inductive NoInteger
  | infinite
  | nan
deriving DecidableEq

/-- The wording of the refusal. -/
def NoInteger.message : NoInteger → String
  | infinite => "cannot convert float infinity to integer"
  | nan => "cannot convert float NaN to integer"

/-- The integer part of a number, toward zero. -/
def truncate : Binary64 → Except NoInteger Int
  | .finite negative m e =>
    let (n, d) := ratio m e
    let q : Int := (n / d : Nat)
    .ok (if negative then -q else q)
  | .infinite _ => .error .infinite
  | .nan => .error .nan

/-- A number of units rounded to a whole number of parts, `parts` to the unit, and at least zero. -/
def toParts (parts : Nat) : Binary64 → Option Nat
  | .finite negative m e =>
    let (n, d) := ratio m e
    some (if negative then 0 else roundHalfEven (n * parts) d)
  | _ => none

end Binary64

end FeedWatch
