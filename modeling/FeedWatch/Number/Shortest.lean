import FeedWatch.Number.Binary64

/-!
# The text of a binary64 number

A number is written with the fewest digits that read back to it, and among those with the digits
nearest to it.  The candidates for a number of digits are the two neighbours of the value on that
decimal grid.  The notation is positional from `10 ^ (-4)` up to below `10 ^ 16` and exponential
outside, and a whole number keeps `.0`.
-/

namespace FeedWatch.Binary64

/-- The least `p` with `num / den < 10 ^ p`, for a positive quotient. -/
def decimalPoint (num den : Nat) : Int :=
  if den ≤ num then ((Nat.toDigits 10 (num / den)).length : Int)
  else 1 - ((Nat.toDigits 10 ((den + num - 1) / num - 1)).length : Int)

/-- The interval of reals that round to a number, in quarters of its unit in the last place. -/
structure Neighbourhood where
  lo : Nat
  mid : Nat
  hi : Nat
  closed : Bool

/-- The neighbourhood of `m * 2 ^ e`: half a unit to either side, but a quarter below a power of
two; the ends belong to it when the mantissa is even. -/
def neighbourhood (m : Nat) (e : Int) : Neighbourhood :=
  { lo := if m = Nat.pow 2 52 ∧ minExponent < e then 4 * m - 1 else 4 * m - 2
    mid := 4 * m
    hi := 4 * m + 2
    closed := m % 2 = 0 }

/-- The nearest of the candidates with `n` digits that round to the number, if there is one. -/
def withDigits (m : Nat) (e : Int) (point : Int) (n : Nat) : Option (Nat × Int) :=
  let near := neighbourhood m e
  let place := point - n
  -- all quantities below are multiples of `2 ^ (e - 2) * 10 ^ place`, made whole
  let unit := Nat.pow 2 (e - 2).toNat * Nat.pow 10 (-place).toNat
  let grid := Nat.pow 10 place.toNat * Nat.pow 2 (2 - e).toNat
  let low := near.mid * unit / grid
  let inside (c : Nat) : Bool :=
    if near.closed then near.lo * unit ≤ c * grid && c * grid ≤ near.hi * unit
    else near.lo * unit < c * grid && c * grid < near.hi * unit
  let below := near.mid * unit - low * grid
  let above := (low + 1) * grid - near.mid * unit
  match inside low, inside (low + 1) with
  | true, true =>
    if below < above || (below == above && low % 2 == 0) then some (low, place)
    else some (low + 1, place)
  | true, false => some (low, place)
  | false, true => some (low + 1, place)
  | false, false => none

/-- The first hit among `n, n + 1, …` digits, trying `fuel` of them. -/
def search (m : Nat) (e : Int) (point : Int) : Nat → Nat → Nat × Int
  | 0, _ => (m, e)
  | fuel + 1, n =>
    match withDigits m e point n with
    | some hit => hit
    | none => search m e point fuel (n + 1)

/-- The shortest digits that read back to a positive number `m * 2 ^ e`, and the power of ten that
they are multiplied by. -/
def shortest (m : Nat) (e : Int) : Nat × Int :=
  let (num, den) := ratio m e
  search m e (decimalPoint num den) 17 1

/-- The digits of a number without the zeros at its end, and how many of these there are. -/
def withoutZeros (n : Nat) : List Char × Nat :=
  let back := (Nat.toDigits 10 n).reverse
  let kept := back.dropWhile (· == '0')
  (kept.reverse, back.length - kept.length)

/-- Digits with the decimal point after `point` of them. -/
def positional (digits : List Char) (point : Int) : List Char :=
  if point ≤ 0 then '0' :: '.' :: (List.replicate (-point).toNat '0' ++ digits)
  else if digits.length ≤ point then
    digits ++ List.replicate (point.toNat - digits.length) '0' ++ ['.', '0']
  else digits.take point.toNat ++ '.' :: digits.drop point.toNat

/-- A power of ten behind digits, in two digits at least. -/
def powerText (power : Int) : List Char :=
  let digits := Nat.toDigits 10 power.natAbs
  'e' :: (if power < 0 then '-' else '+') :: (List.replicate (2 - digits.length) '0' ++ digits)

/-- Digits with the decimal point after the first of them, and the power of ten. -/
def exponential (digits : List Char) (point : Int) : List Char :=
  let mantissa := match digits with
    | [] => []
    | [d] => [d]
    | d :: rest => d :: '.' :: rest
  mantissa ++ powerText (point - 1)

private def signed (negative : Bool) (s : List Char) : String :=
  String.ofList (if negative then '-' :: s else s)

/-- The text of a number. -/
def toText : Binary64 → String
  | .nan => "nan"
  | .infinite negative => signed negative ['i', 'n', 'f']
  | .finite negative m e =>
    if m = 0 then signed negative ['0', '.', '0']
    else
      let (n, power) := shortest m e
      let (digits, zeros) := withoutZeros n
      let point := (digits.length : Int) + zeros + power
      signed negative
        (if -4 < point ∧ point ≤ 16 then positional digits point else exponential digits point)

end FeedWatch.Binary64
