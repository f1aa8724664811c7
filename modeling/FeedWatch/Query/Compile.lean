import FeedWatch.Query.Basic
import FeedWatch.Reference

/-!
# Compiling queries

A query text is a list of clauses between commas, in any case.  A clause is, after any number of
exclamation marks: an owner after `uuid`; a name with a number at its end, which compares an
attribute, the enchants of a class or one enchant; the name of an item type; or else a flag.  The
number at the end is the longest run of digits there, with a minus in front of it if there is one,
and a plus or minus behind it selects the comparison.

Compiling fails only at a number with more digits than can be read.
-/

namespace FeedWatch

/-- A clause text taken apart at the number at its end. -/
structure NumericSuffix where
  key : List Char
  negative : Bool
  digits : List Char
  comparator : Comparator
deriving DecidableEq

namespace NumericSuffix

/-- The comparator that a text read backwards starts with, and the rest. -/
def comparatorBackwards : List Char → Comparator × List Char
  | '+' :: rest => (.atLeast, rest)
  | '-' :: rest => (.atMost, rest)
  | rest => (.equal, rest)

/-- Whether a text read backwards starts with a minus, and the rest. -/
def minusBackwards : List Char → Bool × List Char
  | '-' :: rest => (true, rest)
  | rest => (false, rest)

/-- Takes a text apart at the number at its end, if it ends in one. -/
def split? (text : List Char) : Option NumericSuffix :=
  let (comparator, back) := comparatorBackwards text.reverse
  let digits := back.takeWhile Text.isAsciiDigit
  if digits.isEmpty then none
  else
    let (negative, key) := minusBackwards (back.dropWhile Text.isAsciiDigit)
    some { key := key.reverse, negative, digits := digits.reverse, comparator }

end NumericSuffix

/-- Passes over the exclamation marks in front of a clause; whether their number is odd, and the
rest. -/
def readNegations : List Char → Bool × List Char
  | '!' :: rest =>
    let (odd, rest) := readNegations rest
    (!odd, rest)
  | rest => (false, rest)

/-- The test of a name with a comparison. -/
def Test.ofComparison (index : ReferenceIndex) (key : String) (c : Comparison) : Test :=
  match Attribute.ofName? key with
  | some a => .measure a c
  | none =>
    if index.hasClass key then .classEnchant key (index.enchantsIn key) c else .enchant key c

/-- The test that a text without a number at its end stands for. -/
def Test.ofName (name : String) : Test :=
  match ItemType.ofName? name with
  | some t => .itemType t
  | none => .flag name

/-- Compiles the text of a test. -/
def Test.compile (index : ReferenceIndex) (text : List Char) : Except TooManyDigits Test :=
  match text with
  | 'u' :: 'u' :: 'i' :: 'd' :: name => .ok (.owner (String.ofList name))
  | text =>
    match NumericSuffix.split? text with
    | some suffix => do
      let target ← signedInteger suffix.negative suffix.digits
      return .ofComparison index (String.ofList suffix.key) ⟨suffix.comparator, target⟩
    | none => .ok (.ofName (String.ofList text))

/-- Compiles a clause in lower case. -/
def Clause.compile (index : ReferenceIndex) (text : List Char) : Except TooManyDigits Clause := do
  let (negated, text) := readNegations text
  return { negated, test := ← Test.compile index text }

/-- Compiles a query; the empty text has no clauses. -/
def Query.compile (index : ReferenceIndex) (source : String) : Except TooManyDigits Query := do
  if source.isEmpty then return { source, clauses := [] }
  let clauses ← ((Text.lower source).toList.splitOn ',').mapM (Clause.compile index)
  return { source, clauses }

end FeedWatch
