import FeedWatch.Json.Basic
import FeedWatch.Number.Decimal

/-!
# Reading JSON texts

The reader works on the list of characters that is left.  Every step returns the rest together with
a proof that it is shorter, so reading ends with no further argument; a fault names how many
characters were left where it was found, from which `Json.read` computes its place.

Beyond the JSON grammar, `NaN`, `Infinity` and `-Infinity` are numbers, a number beyond the range of
binary64 is infinite, and a repeated key keeps its first place and its last value.  A surrogate that
has no partner becomes the replacement character.
-/

namespace FeedWatch.Json

/-- What a reader expected and did not find. -/
inductive Fault
  | noValue
  | extraData
  | noKey
  | noColon
  | noComma
  | openText
  | controlCharacter
  | badEscape
  | badUnicodeEscape
  | byteOrderMark
deriving DecidableEq

/-- The wording of a fault. -/
def Fault.message : Fault → String
  | noValue => "Expecting value"
  | extraData => "Extra data"
  | noKey => "Expecting property name enclosed in double quotes"
  | noColon => "Expecting ':' delimiter"
  | noComma => "Expecting ',' delimiter"
  | openText => "Unterminated string starting at"
  | controlCharacter => "Invalid control character at"
  | badEscape => "Invalid \\escape"
  | badUnicodeEscape => "Invalid \\uXXXX escape"
  | byteOrderMark => "Unexpected UTF-8 BOM (decode using utf-8-sig)"

/-- Why a reading step failed. -/
inductive Failure
  /-- A fault, found when `left` characters were left. -/
  | fault (f : Fault) (left : Nat)
  | tooLong (e : TooManyDigits)
deriving DecidableEq

/-- The rest that a step leaves, shorter than the text it began with. -/
abbrev Shorter (s : List Char) := { rest : List Char // rest.length < s.length }

/-- What a reading step makes of a text: a result and the shorter rest, or a failure. -/
abbrev Step (α : Type) (s : List Char) := Except Failure (α × Shorter s)

/-- The characters that may stand between the parts of a JSON text. -/
def isGap (c : Char) : Bool := c = ' ' || c = '\t' || c = '\n' || c = '\r'

/-- Passes over the gap at the front. -/
def skipGap (s : List Char) : List Char := s.dropWhile isGap

theorem length_skipGap_le (s : List Char) : (skipGap s).length ≤ s.length :=
  (List.dropWhile_suffix isGap).length_le

theorem length_lt_of_skipGap {s : List Char} {c : Char} {rest : List Char}
    (h : skipGap s = c :: rest) : rest.length < s.length := by
  have := length_skipGap_le s
  rw [h, List.length_cons] at this
  omega

/-! ## Texts -/

/-- The value of a hexadecimal digit. -/
def hexValue? (c : Char) : Option Nat :=
  if '0' ≤ c && c ≤ '9' then some (c.toNat - '0'.toNat)
  else if 'a' ≤ c && c ≤ 'f' then some (c.toNat - 'a'.toNat + 10)
  else if 'A' ≤ c && c ≤ 'F' then some (c.toNat - 'A'.toNat + 10)
  else none

/-- The value of four hexadecimal digits. -/
def hexUnit? (a b c d : Char) : Option Nat := do
  return (((← hexValue? a) * 16 + (← hexValue? b)) * 16 + (← hexValue? c)) * 16 + (← hexValue? d)

/-- Whether a unit is the first half of a pair. -/
def isHighHalf (n : Nat) : Bool := 0xd800 ≤ n && n ≤ 0xdbff

/-- Whether a unit is the second half of a pair. -/
def isLowHalf (n : Nat) : Bool := 0xdc00 ≤ n && n ≤ 0xdfff

/-- The character of a unit that stands alone. -/
def unitChar (n : Nat) : Char := if 0xd800 ≤ n && n ≤ 0xdfff then '\ufffd' else Char.ofNat n

/-- The character of a pair of units. -/
def pairChar (high low : Nat) : Char :=
  Char.ofNat (0x10000 + (high - 0xd800) * 0x400 + (low - 0xdc00))

/-- The character that a short escape stands for. -/
def shortEscape? (c : Char) : Option Char :=
  if c = '\x22' || c = '\\' || c = '/' then some c
  else if c = 'b' then some '\x08'
  else if c = 'f' then some '\x0c'
  else if c = 'n' then some '\n'
  else if c = 'r' then some '\r'
  else if c = 't' then some '\t'
  else none

/-- Joins a unit with the escape of its second half, if that follows and more text after it. -/
def joinPair (high : Nat) (s : List Char) :
    Except Failure (Char × { rest : List Char // rest.length ≤ s.length }) :=
  match s with
  | '\\' :: 'u' :: a :: b :: c :: d :: e :: rest =>
    if isHighHalf high then
      match hexUnit? a b c d with
      | none => .error (.fault .badUnicodeEscape (rest.length + 6))
      | some low =>
        if isLowHalf low then
          .ok (pairChar high low, ⟨e :: rest, by simp⟩)
        else .ok (unitChar high, ⟨_, Nat.le_refl _⟩)
    else .ok (unitChar high, ⟨_, Nat.le_refl _⟩)
  | s => .ok (unitChar high, ⟨s, Nat.le_refl _⟩)

/-- Reads an escape after its backslash; `opened` characters were left at the quote that opened the
text. -/
def escape (opened : Nat) (s : List Char) : Step Char s :=
  match s with
  | [] => .error (.fault .openText opened)
  | c :: rest =>
    if c = 'u' then
      match rest with
      | h₁ :: h₂ :: h₃ :: h₄ :: next :: rest =>
        match hexUnit? h₁ h₂ h₃ h₄ with
        | none => .error (.fault .badUnicodeEscape (rest.length + 6))
        | some unit =>
          match joinPair unit (next :: rest) with
          | .error e => .error e
          | .ok (c, ⟨rest, h⟩) =>
            .ok (c, ⟨rest, by simp only [List.length_cons] at h ⊢; omega⟩)
      | rest => .error (.fault .badUnicodeEscape (rest.length + 1))
    else
      match shortEscape? c with
      | some c => .ok (c, ⟨rest, by simp⟩)
      | none => .error (.fault .badEscape (rest.length + 2))

/-- Reads a text after its opening quote, up to and with its closing quote. -/
def textBody (opened : Nat) (s : List Char) : Step (List Char) s :=
  match s with
  | [] => .error (.fault .openText opened)
  | c :: rest =>
    if c = '\x22' then .ok ([], ⟨rest, by simp⟩)
    else if c = '\\' then
      match escape opened rest with
      | .error e => .error e
      | .ok (c, ⟨rest₁, h₁⟩) =>
        match textBody opened rest₁ with
        | .error e => .error e
        | .ok (cs, ⟨rest₂, h₂⟩) => .ok (c :: cs, ⟨rest₂, by simp only [List.length_cons]; omega⟩)
    else if c.toNat < 0x20 then .error (.fault .controlCharacter (rest.length + 1))
    else
      match textBody opened rest with
      | .error e => .error e
      | .ok (cs, ⟨rest₁, h₁⟩) => .ok (c :: cs, ⟨rest₁, by simp only [List.length_cons]; omega⟩)
termination_by s.length
decreasing_by all_goals (simp only [List.length_cons]; omega)

/-! ## Numbers -/

/-- The digits at the front. -/
def spanDigits (s : List Char) : List Char × { rest : List Char // rest.length ≤ s.length } :=
  (s.takeWhile Text.isAsciiDigit,
    ⟨s.dropWhile Text.isAsciiDigit, (List.dropWhile_suffix Text.isAsciiDigit).length_le⟩)

/-- The whole digits of a number: one zero, or digits that start with another one. -/
def wholeDigits (s : List Char) : Option (List Char × Shorter s) :=
  match s with
  | [] => none
  | c :: rest =>
    if c = '0' then some (['0'], ⟨rest, by simp⟩)
    else if Text.isAsciiDigit c then
      let (digits, ⟨rest, h⟩) := spanDigits rest
      some (c :: digits, ⟨rest, by simp only [List.length_cons]; omega⟩)
    else none

/-- The decimal places behind the whole digits: a point that digits follow. -/
def decimalPlaces (s : List Char) :
    Option (List Char) × { rest : List Char // rest.length ≤ s.length } :=
  match s with
  | '.' :: rest =>
    match spanDigits rest with
    | ([], _) => (none, ⟨_, Nat.le_refl _⟩)
    | (digits, ⟨rest, h⟩) => (some digits, ⟨rest, by simp only [List.length_cons]; omega⟩)
  | s => (none, ⟨s, Nat.le_refl _⟩)

/-- The power of ten behind a number: the letter, possibly a sign, and digits. -/
def powerOfTen (s : List Char) : Option Int × { rest : List Char // rest.length ≤ s.length } :=
  match s with
  | [] => (none, ⟨[], Nat.le_refl _⟩)
  | c :: rest =>
    if c = 'e' || c = 'E' then
      match rest with
      | '-' :: rest =>
        match spanDigits rest with
        | ([], _) => (none, ⟨_, Nat.le_refl _⟩)
        | (digits, ⟨rest, h⟩) =>
          (some (-(digitsValue digits : Int)), ⟨rest, by simp only [List.length_cons]; omega⟩)
      | '+' :: rest =>
        match spanDigits rest with
        | ([], _) => (none, ⟨_, Nat.le_refl _⟩)
        | (digits, ⟨rest, h⟩) =>
          (some (digitsValue digits), ⟨rest, by simp only [List.length_cons]; omega⟩)
      | rest =>
        match spanDigits rest with
        | ([], _) => (none, ⟨_, Nat.le_refl _⟩)
        | (digits, ⟨rest, h⟩) =>
          (some (digitsValue digits), ⟨rest, by simp only [List.length_cons]; omega⟩)
    else (none, ⟨_, Nat.le_refl _⟩)

/-- The number with the given parts: whole without decimal places and power, else binary64. -/
def numberOf (negative : Bool) (whole : List Char) (places : Option (List Char))
    (power : Option Int) : Except Failure Json :=
  match places, power with
  | none, none =>
    match signedInteger negative whole with
    | .ok i => .ok (.int i)
    | .error e => .error (.tooLong e)
  | places, power =>
    .ok (.real (Numeral.ofParts negative whole (places.getD []) (power.getD 0)))

/-- Reads an unsigned number. -/
def unsigned (negative : Bool) (start : Nat) (s : List Char) : Step Json s :=
  match wholeDigits s with
  | none => .error (.fault .noValue start)
  | some (whole, ⟨rest₁, h₁⟩) =>
    let (places, ⟨rest₂, h₂⟩) := decimalPlaces rest₁
    let (power, ⟨rest₃, h₃⟩) := powerOfTen rest₂
    match numberOf negative whole places power with
    | .error e => .error e
    | .ok v => .ok (v, ⟨rest₃, by omega⟩)

/-! ## Values -/

/-- Reads a word that stands for a value. -/
def word? (s : List Char) : Option (Json × Shorter s) :=
  match s with
  | 'n' :: 'u' :: 'l' :: 'l' :: rest => some (.null, ⟨rest, by simp only [List.length_cons]; omega⟩)
  | 't' :: 'r' :: 'u' :: 'e' :: rest =>
    some (.bool true, ⟨rest, by simp only [List.length_cons]; omega⟩)
  | 'f' :: 'a' :: 'l' :: 's' :: 'e' :: rest =>
    some (.bool false, ⟨rest, by simp only [List.length_cons]; omega⟩)
  | 'N' :: 'a' :: 'N' :: rest => some (.real .nan, ⟨rest, by simp only [List.length_cons]; omega⟩)
  | 'I' :: 'n' :: 'f' :: 'i' :: 'n' :: 'i' :: 't' :: 'y' :: rest =>
    some (.real (.infinite false), ⟨rest, by simp only [List.length_cons]; omega⟩)
  | '-' :: 'I' :: 'n' :: 'f' :: 'i' :: 'n' :: 'i' :: 't' :: 'y' :: rest =>
    some (.real (.infinite true), ⟨rest, by simp only [List.length_cons]; omega⟩)
  | _ => none

/-- Reads a word or a number. -/
def scalar (s : List Char) : Step Json s :=
  match word? s with
  | some r => .ok r
  | none =>
    match s with
    | '-' :: rest =>
      match unsigned true (rest.length + 1) rest with
      | .error e => .error e
      | .ok (v, ⟨rest, h⟩) => .ok (v, ⟨rest, by simp only [List.length_cons]; omega⟩)
    | s => unsigned false s.length s

/-- Reads a key and the colon behind it. -/
def key (s : List Char) : Step String s :=
  match s with
  | [] => .error (.fault .noKey 0)
  | c :: rest =>
    if c = '\x22' then
      match textBody (rest.length + 1) rest with
      | .error e => .error e
      | .ok (cs, ⟨rest₁, h₁⟩) =>
        match h₂ : skipGap rest₁ with
        | [] => .error (.fault .noColon 0)
        | d :: rest₂ =>
          if d = ':' then
            have := length_lt_of_skipGap h₂
            .ok (String.ofList cs, ⟨rest₂, by simp only [List.length_cons]; omega⟩)
          else .error (.fault .noColon (rest₂.length + 1))
    else .error (.fault .noKey (rest.length + 1))

mutual

/-- Reads a value that starts at the front. -/
def value (s : List Char) : Step Json s :=
  match s with
  | [] => .error (.fault .noValue 0)
  | c :: rest =>
    have := length_skipGap_le rest
    if c = '\x22' then
      match textBody (rest.length + 1) rest with
      | .error e => .error e
      | .ok (cs, ⟨rest₁, h₁⟩) =>
        .ok (.str (String.ofList cs), ⟨rest₁, by simp only [List.length_cons]; omega⟩)
    else if c = '[' then
      if (skipGap rest).head? = some ']' then
        .ok (.arr [], ⟨(skipGap rest).tail, by
          simp only [List.length_tail, List.length_cons]; omega⟩)
      else
        match elements (skipGap rest) with
        | .error e => .error e
        | .ok (vs, ⟨rest₁, h₁⟩) => .ok (.arr vs, ⟨rest₁, by simp only [List.length_cons]; omega⟩)
    else if c = '\x7b' then
      if (skipGap rest).head? = some '\x7d' then
        .ok (.obj [], ⟨(skipGap rest).tail, by
          simp only [List.length_tail, List.length_cons]; omega⟩)
      else
        match fields (skipGap rest) with
        | .error e => .error e
        | .ok (fs, ⟨rest₁, h₁⟩) =>
          .ok (.obj (members fs), ⟨rest₁, by simp only [List.length_cons]; omega⟩)
    else scalar (c :: rest)
termination_by (s.length, 0)
decreasing_by all_goals (left; simp only [List.length_cons]; omega)

/-- Reads the elements of an array from the first one on, with the closing bracket. -/
def elements (s : List Char) : Step (List Json) s :=
  match value s with
  | .error e => .error e
  | .ok (v, ⟨rest₁, h₁⟩) =>
    match h₂ : skipGap rest₁ with
    | [] => .error (.fault .noComma 0)
    | c :: rest₂ =>
      have := length_lt_of_skipGap h₂
      have := length_skipGap_le rest₂
      if c = ']' then .ok ([v], ⟨rest₂, by omega⟩)
      else if c = ',' then
        match elements (skipGap rest₂) with
        | .error e => .error e
        | .ok (vs, ⟨rest₃, h₃⟩) => .ok (v :: vs, ⟨rest₃, by omega⟩)
      else .error (.fault .noComma (rest₂.length + 1))
termination_by (s.length, 1)
decreasing_by
  · right; omega
  · left; omega

/-- Reads the members of an object from the first one on, with the closing brace. -/
def fields (s : List Char) : Step (List (String × Json)) s :=
  match key s with
  | .error e => .error e
  | .ok (k, ⟨rest₁, h₁⟩) =>
    have := length_skipGap_le rest₁
    match value (skipGap rest₁) with
    | .error e => .error e
    | .ok (v, ⟨rest₂, h₂⟩) =>
      match h₃ : skipGap rest₂ with
      | [] => .error (.fault .noComma 0)
      | c :: rest₃ =>
        have := length_lt_of_skipGap h₃
        have := length_skipGap_le rest₃
        if c = '\x7d' then .ok ([(k, v)], ⟨rest₃, by omega⟩)
        else if c = ',' then
          match fields (skipGap rest₃) with
          | .error e => .error e
          | .ok (fs, ⟨rest₄, h₄⟩) => .ok ((k, v) :: fs, ⟨rest₄, by omega⟩)
        else .error (.fault .noComma (rest₃.length + 1))
termination_by (s.length, 1)
decreasing_by
  · left; omega
  · left; omega

end

/-- The value of a text that holds one value and gaps around it. -/
def wholeValue (s : List Char) : Except Failure Json :=
  match value (skipGap s) with
  | .error e => .error e
  | .ok (v, ⟨rest, _⟩) =>
    if (skipGap rest).isEmpty then .ok v else .error (.fault .extraData (skipGap rest).length)

/-- Reads a text that holds one value and gaps around it; a byte order mark is no gap. -/
def document (s : List Char) : Except Failure Json :=
  if s.head? = some '\ufeff' then .error (.fault .byteOrderMark s.length) else wholeValue s

/-! ## Places in a text -/

/-- A place in a text: lines and columns count from one, characters from zero. -/
structure Place where
  line : Nat
  column : Nat
  char : Nat
deriving DecidableEq

/-- The place behind a part of a text. -/
def Place.after (before : List Char) : Place :=
  { line := before.count '\n' + 1
    column := (before.reverse.takeWhile (· != '\n')).length + 1
    char := before.length }

/-- Why a text is not JSON, or holds a number that is too long. -/
inductive ReadError
  | malformed (fault : Fault) (place : Place)
  | tooLong (e : TooManyDigits)
deriving DecidableEq

/-- The wording of the refusal. -/
def ReadError.message : ReadError → String
  | malformed fault place =>
    fault.message ++ ": line " ++ toString place.line ++ " column " ++ toString place.column ++
      " (char " ++ toString place.char ++ ")"
  | tooLong e => e.message

/-- The refusal of a text that a step failed on. -/
def Failure.toError (s : List Char) : Failure → ReadError
  | fault f left => .malformed f (.after (s.take (s.length - left)))
  | tooLong e => .tooLong e

/-- Reads a JSON text. -/
def read (text : String) : Except ReadError Json :=
  (document text.toList).mapError (Failure.toError text.toList)

end FeedWatch.Json
