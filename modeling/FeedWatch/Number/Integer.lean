import FeedWatch.Text.Blank
import FeedWatch.Text.Digit
import FeedWatch.Text.Quoted

/-!
# Integer numerals

An integer numeral is a sign and decimal digits of any script, with blanks around them and single
underscores between digits.  A numeral of more than `digitLimit` digits is refused, whatever stands
behind it; this keeps the time to read a numeral bounded.
-/

namespace FeedWatch

/-- The greatest number of digits that an integer numeral may have. -/
def digitLimit : Nat := 4300

/-- An integer numeral of this many digits is too long to be read. -/
structure TooManyDigits where
  digits : Nat
deriving DecidableEq

/-- The wording of the refusal. -/
def TooManyDigits.message (e : TooManyDigits) : String :=
  "Exceeds the limit (" ++ toString digitLimit ++
    " digits) for integer string conversion: value has " ++ toString e.digits ++
    " digits; use sys.set_int_max_str_digits() to increase the limit"

/-- The number that ASCII digits denote. -/
def digitsValue (digits : List Char) : Nat :=
  digits.foldl (fun n c => 10 * n + (c.toNat - '0'.toNat)) 0

namespace Numeral

/-- Blanks become spaces and digits ASCII digits; any other character outside ASCII ends the text
with a question mark, which no numeral holds. -/
def plain : List Char → List Char
  | [] => []
  | c :: rest =>
    if c.toNat < 127 then c :: plain rest
    else if Text.isBlank c then ' ' :: plain rest
    else
      match Text.digitValue? c with
      | some d => Char.ofNat ('0'.toNat + d) :: plain rest
      | none => ['?']

/-- The digits at the front of a text, single underscores between them left out, and the rest; there
are none if no digit comes first or an underscore is not followed by a digit. -/
def grouped (afterDigit : Bool) : List Char → Option (List Char × List Char)
  | [] => if afterDigit then some ([], []) else none
  | c :: rest =>
    if Text.isAsciiDigit c then (grouped true rest).map fun (digits, rest) => (c :: digits, rest)
    else if !afterDigit then none
    else if c = '_' then grouped false rest
    else some ([], c :: rest)

/-- A sign at the front of a text: whether it is a minus, and the rest. -/
def sign : List Char → Bool × List Char
  | '+' :: rest => (false, rest)
  | '-' :: rest => (true, rest)
  | rest => (false, rest)

end Numeral

/-- Why a text is no integer. -/
inductive IntegerError
  | malformed (text : String)
  | tooLong (e : TooManyDigits)
deriving DecidableEq

/-- The wording of the refusal; of a long text it shows the beginning. -/
def IntegerError.message : IntegerError → String
  | malformed text =>
    "invalid literal for int() with base 10: " ++
      String.ofList ((Text.quotedChars text.toList).take 200)
  | tooLong e => e.message

/-- The integer with a sign and ASCII digits, unless they are too many. -/
def signedInteger (negative : Bool) (digits : List Char) : Except TooManyDigits Int :=
  if digits.length > digitLimit then .error ⟨digits.length⟩
  else .ok (if negative then -(digitsValue digits : Int) else digitsValue digits)

/-- Reads an integer numeral. -/
def readInteger (text : String) : Except IntegerError Int :=
  let (negative, rest) :=
    Numeral.sign ((Numeral.plain text.toList).dropWhile Text.isBlank)
  match Numeral.grouped false rest with
  | none => .error (.malformed text)
  | some (digits, rest) =>
    match signedInteger negative digits with
    | .error e => .error (.tooLong e)
    | .ok n => if rest.all Text.isBlank then .ok n else .error (.malformed text)

end FeedWatch
