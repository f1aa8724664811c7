import FeedWatch.Json.Literal
import FeedWatch.Number.Integer
import FeedWatch.Number.Places
import FeedWatch.Number.Word

/-!
# Message patterns

A message is a pattern with conversions, each of which writes the next argument.  A conversion is a
percent sign, perhaps a key in round brackets, flags, a width, a point and a precision, a size that
says nothing, and a letter.  A star in the place of a width or a precision takes it from the
arguments.  `%%` stands for one sign.  Every argument must be written, unless the arguments are one
value that is looked up by keys.  Without arguments a pattern is the message as it stands.

A pattern is worked off from left to right, and the first fault met is the one reported.
-/

namespace FeedWatch.Log

/-- Why a pattern gives no message. -/
inductive PatternError
  | unfinished
  | unfinishedKey
  | missingArgument
  | surplusArgument
  /-- A key is given, and the arguments are not looked up by keys. -/
  | notKeyed
  | unknownKey (key : String)
  /-- A width or a precision from the arguments is no integer. -/
  | notCount
  | widthTooLarge
  | widthBeyondRange
  | precisionTooLarge
  | precisionBeyondRange
  | tooWide
  | unknownConversion (c : Char) (position : Nat)
  | notNumber
  | noInteger (e : Binary64.NoInteger)
  | tooLarge
  | notCharacter
  | characterBeyondRange

/-- The wording of an error. -/
def PatternError.message : PatternError → String
  | unfinished => "incomplete format"
  | unfinishedKey => "incomplete format key"
  | missingArgument => "not enough arguments for format string"
  | surplusArgument => "not all arguments converted during string formatting"
  | notKeyed => "format requires a mapping"
  | unknownKey key => Text.quoted key
  | notCount => "* wants int"
  | widthTooLarge => "width too big"
  | widthBeyondRange => "Python int too large to convert to C ssize_t"
  | precisionTooLarge => "precision too big"
  | precisionBeyondRange => "Python int too large to convert to C int"
  | tooWide => "the message cannot be held"
  | unknownConversion c position =>
    "unsupported format character '" ++
      String.singleton (if 31 ≤ c.toNat && c.toNat ≤ 126 then c else '?') ++ "' (0x" ++
      String.ofList (Nat.toDigits 16 c.toNat) ++ ") at index " ++ toString position
  | notNumber => "a number is required"
  | noInteger e => e.message
  | tooLarge => "int too large to convert to float"
  | notCharacter => "%c requires int or char"
  | characterBeyondRange => "%c arg not in range(0x110000)"

/-- The arguments of a message: several values, or one value taken as a whole. -/
inductive Arguments
  | many (values : List Json)
  | one (value : Json)

namespace Arguments

/-- The arguments given with a message.  A single object that is not empty is taken as a whole. -/
def ofList : List Json → Arguments
  | [.obj (m :: ms)] => one (.obj (m :: ms))
  | values => many values

/-- Whether there is anything to write. -/
def isFilled : Arguments → Bool
  | many values => !values.isEmpty
  | one value => value.isFilled

end Arguments

/-- The arguments while a pattern is worked off: the values that are left, and the value that keys
are looked up in. -/
structure Supply where
  left : List Json
  keyed : Option Json

namespace Supply

/-- All arguments.  A list or an object taken as a whole is looked up by keys. -/
def ofArguments : Arguments → Supply
  | .many values => ⟨values, none⟩
  | .one (.obj ms) => ⟨[.obj ms], some (.obj ms)⟩
  | .one (.arr vs) => ⟨[.arr vs], some (.arr vs)⟩
  | .one v => ⟨[v], none⟩

/-- The next value. -/
def next (s : Supply) : Except PatternError (Json × Supply) :=
  match s.left with
  | [] => .error .missingArgument
  | v :: left => .ok (v, { s with left })

/-- Makes the value under a key the next one, and the only one. -/
def lookUp (key : String) (s : Supply) : Except PatternError Supply :=
  match s.keyed with
  | some (.obj ms) =>
    match ms.lookup key with
    | none => .error (.unknownKey key)
    | some v => .ok { s with left := [v] }
  | _ => .error .notKeyed

end Supply

/-- What a conversion says about the field it writes. -/
structure Field where
  onLeft : Bool := false
  plus : Bool := false
  blank : Bool := false
  alternate : Bool := false
  zeros : Bool := false
  width : Option Nat := none
  precision : Option Nat := none

namespace Field

/-- Sets a flag; none if the character is no flag. -/
def flag? (c : Char) (f : Field) : Option Field :=
  if c = '-' then some { f with onLeft := true }
  else if c = '+' then some { f with plus := true }
  else if c = ' ' then some { f with blank := true }
  else if c = '#' then some { f with alternate := true }
  else if c = '0' then some { f with zeros := true }
  else none

/-- Reads the flags at the front of a text. -/
def readFlags (f : Field) : List Char → Field × List Char
  | [] => (f, [])
  | c :: rest =>
    match f.flag? c with
    | some f => readFlags f rest
    | none => (f, c :: rest)

/-- A field of the width, or of one character for each of the body, the sign and the mark if that is
more.  Zeros stand behind the sign and the mark, spaces before them or, on the left, behind all. -/
def layOut (zeros : Bool) (sign mark body : List Char) (f : Field) : List Char :=
  let missing := f.width.getD 0 - (sign.length + mark.length + body.length)
  if f.onLeft then sign ++ mark ++ body ++ List.replicate missing ' '
  else if zeros then sign ++ mark ++ List.replicate missing '0' ++ body
  else List.replicate missing ' ' ++ sign ++ mark ++ body

/-- The field of a text, cut to the precision. -/
def ofText (s : List Char) (f : Field) : List Char :=
  f.layOut false [] [] (match f.precision with
    | none => s
    | some n => s.take n)

/-- The field of a number. -/
def ofNumber (negative : Bool) (mark body : List Char) (f : Field) : List Char :=
  let sign := if negative then ['-'] else if f.plus then ['+'] else if f.blank then [' '] else []
  f.layOut f.zeros sign mark body

end Field

/-- A number as a binary64 number. -/
def number : Json → Except PatternError Binary64
  | .int i =>
    match Binary64.ofInt i with
    | .infinite _ => .error .tooLarge
    | x => .ok x
  | .real x => .ok x
  | .bool b => .ok (.ofInt (if b then 1 else 0))
  | _ => .error .notNumber

/-- The integer part of a number. -/
def whole : Json → Except PatternError Int
  | .int i => .ok i
  | .real x => x.truncate.mapError .noInteger
  | .bool b => .ok (if b then 1 else 0)
  | _ => .error .notNumber

/-- A number that is an integer. -/
def integer : Json → Except PatternError Int
  | .int i => .ok i
  | .bool b => .ok (if b then 1 else 0)
  | _ => .error .notNumber

/-- The field of an integer to a base.  The precision is the least number of digits. -/
def integerField (base : Nat) (upper : Bool) (i : Int) (f : Field) : List Char :=
  let digits := Nat.toDigits base i.natAbs
  let digits := List.replicate (f.precision.getD 0 - digits.length) '0' ++ digits
  let mark :=
    if f.alternate && base != 10 then ['0', if base = 16 then 'x' else 'o'] else []
  let cased := fun s : List Char => if upper then s.map Char.toUpper else s
  f.ofNumber (i < 0) (cased mark) (cased digits)

/-- The field of a binary64 number in the notation of a letter. -/
def realField (letter : Char) (x : Binary64) (f : Field) : List Char :=
  let cased := fun s : List Char => if letter.isUpper then s.map Char.toUpper else s
  match x with
  | .nan => f.ofNumber false [] (cased ['n', 'a', 'n'])
  | .infinite negative => f.ofNumber negative [] (cased ['i', 'n', 'f'])
  | .finite negative m e =>
    let (n, d) := Binary64.ratio m e
    let count := f.precision.getD 6
    let form := letter.toLower
    f.ofNumber negative [] (cased (
      if form = 'f' then Binary64.fixed f.alternate count n d
      else if form = 'e' then Binary64.scientific f.alternate count n d
      else Binary64.general f.alternate count n d))

/-- The character that a value stands for. -/
def character : Json → Except PatternError Char
  | .str s =>
    match s.toList with
    | [c] => .ok c
    | _ => .error .notCharacter
  | v =>
    match integer v with
    | .error _ => .error .notCharacter
    | .ok i => if 0 ≤ i && i < 0x110000 then .ok (Char.ofNat i.toNat) else
      .error .characterBeyondRange

/-- The field of a value under the letter at a position. -/
def field (letter : Char) (position : Nat) (v : Json) (f : Field) :
    Except PatternError (List Char) := do
  if f.width.any (Text.widthLimit ≤ ·) then throw .tooWide
  match letter with
  | 's' => return f.ofText v.shown.toList
  | 'r' => return f.ofText v.literal.toList
  | 'a' => return f.ofText (Text.asciiOnly v.literal.toList)
  | 'd' | 'i' | 'u' => return integerField 10 false (← whole v) f
  | 'o' => return integerField 8 false (← integer v) f
  | 'x' => return integerField 16 false (← integer v) f
  | 'X' => return integerField 16 true (← integer v) f
  | 'e' | 'E' | 'f' | 'F' | 'g' | 'G' => return realField letter (← number v) f
  | 'c' => return f.layOut false [] [] [← character v]
  | c => throw (.unknownConversion c position)

/-- The length of a key with its closing bracket, `depth` brackets being open; none if a bracket is
left open. -/
def keyLength? (depth : Nat) : List Char → Option Nat
  | [] => none
  | c :: rest =>
    if c = ')' then if depth ≤ 1 then some 1 else (keyLength? (depth - 1) rest).map (· + 1)
    else (keyLength? (if c = '(' then depth + 1 else depth) rest).map (· + 1)

/-- Reads a key and looks it up. -/
def readKey (s : List Char) (supply : Supply) : Except PatternError (List Char × Supply) :=
  match s with
  | '(' :: rest =>
    if supply.keyed.isNone then .error .notKeyed
    else
      match keyLength? 1 rest with
      | none => .error .unfinishedKey
      | some n => do
        let supply ← supply.lookUp (String.ofList (rest.take (n - 1)))
        return (rest.drop n, supply)
  | s => .ok (s, supply)

/-- Reads a count that is written out or, in the place of a star, comes from the arguments. -/
def readCount (tooLarge : Nat → Option PatternError) (beyond : Int → Option PatternError)
    (s : List Char) (supply : Supply) :
    Except PatternError (Option Int × List Char × Supply) :=
  match s with
  | '*' :: rest => do
    let (v, supply) ← supply.next
    match v with
    | .int i =>
      match beyond i with
      | some e => throw e
      | none => return (some i, rest, supply)
    | .bool b => return (some (if b then 1 else 0), rest, supply)
    | _ => throw .notCount
  | s =>
    let digits := s.takeWhile Char.isDigit
    if digits.isEmpty then .ok (none, s, supply)
    else
      match tooLarge (digitsValue digits) with
      | some e => .error e
      | none => .ok (some (digitsValue digits), s.drop digits.length, supply)

/-- Reads a width.  A negative one asks for the left side. -/
def readWidth (f : Field) (s : List Char) (supply : Supply) :
    Except PatternError (Field × List Char × Supply) := do
  let (width, s, supply) ← readCount
    (fun n => if longWordLimit ≤ n then some .widthTooLarge else none)
    (fun i => if fitsLongWord i then none else some .widthBeyondRange) s supply
  return ({ f with
    width := width.map Int.natAbs, onLeft := f.onLeft || width.any (· < 0) }, s, supply)

/-- Reads a point and a precision.  A negative one is zero, and so is a missing one. -/
def readPrecision (f : Field) (s : List Char) (supply : Supply) :
    Except PatternError (Field × List Char × Supply) :=
  match s with
  | '.' :: rest => do
    let (precision, rest, supply) ← readCount
      (fun n => if wordLimit ≤ n then some .precisionTooLarge else none)
      (fun i => if fitsWord i then none else some .precisionBeyondRange) rest supply
    return ({ f with precision := some (precision.getD 0).toNat }, rest, supply)
  | s => .ok (f, s, supply)

/-- Leaves out a size. -/
def withoutSize : List Char → List Char
  | c :: rest => if c = 'h' || c = 'l' || c = 'L' then rest else c :: rest
  | [] => []

/-- Works off a conversion behind its percent sign: the text written, the rest of the pattern and
the arguments left.  `length` is the length of the whole pattern, from which positions are counted.
-/
def convert (length : Nat) (s : List Char) (supply : Supply) :
    Except PatternError (List Char × List Char × Supply) := do
  let (s, supply) ← readKey s supply
  let (f, s) := ({} : Field).readFlags s
  let (f, s, supply) ← readWidth f s supply
  let (f, s, supply) ← readPrecision f s supply
  match withoutSize s with
  | [] => throw .unfinished
  | letter :: rest =>
    let (v, supply) ← supply.next
    let written ← field letter (length - rest.length - 1) v f
    if supply.keyed.isSome && !supply.left.isEmpty then throw .surplusArgument
    return (written, rest, supply)

/-- Works off a pattern; `fuel` bounds its length. -/
def writeFrom (length : Nat) : Nat → List Char → Supply → Except PatternError (List Char)
  | _, [], supply =>
    if supply.keyed.isNone && !supply.left.isEmpty then .error .surplusArgument else .ok []
  | 0, _, _ => .ok []
  | fuel + 1, '%' :: '%' :: rest, supply => do
    return '%' :: (← writeFrom length fuel rest supply)
  | fuel + 1, '%' :: rest, supply => do
    let (written, rest, supply) ← convert length rest supply
    return written ++ (← writeFrom length fuel rest supply)
  | fuel + 1, c :: rest, supply => do
    return c :: (← writeFrom length fuel rest supply)

/-- The message that a pattern gives with its arguments. -/
def message (pattern : String) (arguments : Arguments) : Except PatternError String :=
  if arguments.isFilled then
    (writeFrom pattern.length pattern.length pattern.toList (.ofArguments arguments)).map
      String.ofList
  else .ok pattern

/-- A pattern without arguments is the message. -/
theorem message_nil (pattern : String) : message pattern (.many []) = .ok pattern := rfl

end FeedWatch.Log
