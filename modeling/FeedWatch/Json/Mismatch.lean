import FeedWatch.Json.Literal
import FeedWatch.Number.Decimal

/-!
# Reading data out of a value

Data is read out of a JSON value member by member, and each way in which a value is not what was
expected is a cause of its own.  The causes fall into five families, which decide who reports them:
a missing key, a text or number that cannot be converted, a value of the wrong kind, a value without
the wanted operation, and a number without an integer part because it is infinite.
-/

namespace FeedWatch.Json

/-- Why data could not be read out of a value. -/
inductive Mismatch
  | missing (key : String)
  | notInteger (e : IntegerError)
  | notANumber
  | infinite
  | tooLarge
  | notDecimal (text : String)
  | tooFew (expected got : Nat)
  | tooMany (expected : Nat)
  /-- A member is asked of a value that is no object. -/
  | notKeyed (v : Json)
  /-- The members of a value that is no object are asked for. -/
  | notObject (v : Json) (operation : String)
  | notSeries (v : Json)
  | notUnpacked (v : Json)
  | notIntegral (v : Json)
  | notNumeric (v : Json)

/-- The family of a cause. -/
inductive MismatchFamily
  | key
  | value
  | kind
  | operation
  | overflow
deriving DecidableEq

/-- The family of a cause. -/
def Mismatch.family : Mismatch → MismatchFamily
  | missing _ => .key
  | notInteger _ | notANumber | notDecimal _ | tooFew .. | tooMany _ => .value
  | infinite | tooLarge => .overflow
  | notKeyed _ | notSeries _ | notUnpacked _ | notIntegral _ | notNumeric _ => .kind
  | notObject .. => .operation

/-- The name under which messages show the kind of a value. -/
def kindName : Json → String
  | null => "NoneType"
  | bool _ => "bool"
  | int _ => "int"
  | real _ => "float"
  | str _ => "str"
  | arr _ => "list"
  | obj _ => "dict"

/-- The wording of a cause. -/
def Mismatch.message : Mismatch → String
  | missing key => Text.quoted key
  | notInteger e => e.message
  | notANumber => Binary64.NoInteger.nan.message
  | infinite => Binary64.NoInteger.infinite.message
  | tooLarge => "int too large to convert to float"
  | notDecimal text => "could not convert string to float: " ++ Text.quoted text
  | tooFew expected got =>
    "not enough values to unpack (expected " ++ toString expected ++ ", got " ++ toString got ++ ")"
  | tooMany expected => "too many values to unpack (expected " ++ toString expected ++ ")"
  | notKeyed (arr _) => "list indices must be integers or slices, not str"
  | notKeyed (str _) => "string indices must be integers, not 'str'"
  | notKeyed v => "'" ++ v.kindName ++ "' object is not subscriptable"
  | notObject v operation => "'" ++ v.kindName ++ "' object has no attribute '" ++ operation ++ "'"
  | notSeries v => "'" ++ v.kindName ++ "' object is not iterable"
  | notUnpacked v => "cannot unpack non-iterable " ++ v.kindName ++ " object"
  | notIntegral v =>
    "int() argument must be a string, a bytes-like object or a real number, not '" ++
      v.kindName ++ "'"
  | notNumeric v =>
    "float() argument must be a string or a real number, not '" ++ v.kindName ++ "'"

/-- The name of a family of causes in messages. -/
def MismatchFamily.label : MismatchFamily → String
  | key => "KeyError"
  | value => "ValueError"
  | kind => "TypeError"
  | operation => "AttributeError"
  | overflow => "OverflowError"

/-- A cause with its family, as messages about other data quote it. -/
def Mismatch.written (m : Mismatch) : String :=
  m.family.label ++ "(" ++
    (match m with
      | missing key => Text.quoted key
      | m => Text.quoted m.message) ++ ")"

/-- The member of an object under a key, which must be there. -/
def member (key : String) : Json → Except Mismatch Json
  | obj members =>
    match members.lookup key with
    | some v => .ok v
    | none => .error (.missing key)
  | v => .error (.notKeyed v)

/-- The member of an object under a key, if it is there. -/
def member? (key : String) : Json → Except Mismatch (Option Json)
  | obj members => .ok (members.lookup key)
  | v => .error (.notObject v "get")

/-- The member of an object under a key, or null. -/
def memberOrNull (key : String) (v : Json) : Except Mismatch Json :=
  (v.member? key).map (·.getD null)

/-- What a value yields one after the other: elements, keys or characters. -/
def series : Json → Except Mismatch (List Json)
  | arr vs => .ok vs
  | obj members => .ok (members.map fun (key, _) => str key)
  | str s => .ok (s.toList.map fun c => str (String.singleton c))
  | v => .error (.notSeries v)

/-- What a value yields, or nothing if it is not filled in. -/
def seriesOrNone (v : Json) : Except Mismatch (List Json) :=
  if v.isFilled then v.series else .ok []

/-- The integer that a value denotes. -/
def toInt : Json → Except Mismatch Int
  | bool b => .ok (if b then 1 else 0)
  | int i => .ok i
  | real x =>
    match x.truncate with
    | .ok i => .ok i
    | .error .infinite => .error .infinite
    | .error .nan => .error .notANumber
  | str s =>
    match readInteger s with
    | .ok i => .ok i
    | .error e => .error (.notInteger e)
  | v => .error (.notIntegral v)

/-- The binary64 number that a value denotes. -/
def toReal : Json → Except Mismatch Binary64
  | bool b => .ok (.ofInt (if b then 1 else 0))
  | int i =>
    match Binary64.ofInt i with
    | .infinite _ => .error .tooLarge
    | x => .ok x
  | real x => .ok x
  | str s =>
    match readDecimal s with
    | some x => .ok x
    | none => .error (.notDecimal s)
  | v => .error (.notNumeric v)

/-- The two values that a value yields. -/
def pair (v : Json) : Except Mismatch (Json × Json) :=
  match v.series with
  | .error _ => .error (.notUnpacked v)
  | .ok [a, b] => .ok (a, b)
  | .ok [] => .error (.tooFew 2 0)
  | .ok [_] => .error (.tooFew 2 1)
  | .ok _ => .error (.tooMany 2)

end FeedWatch.Json
