import FeedWatch.Number.Word
import FeedWatch.Text.Digit
import FeedWatch.Text.Part

/-!
# Templates

A template is a text with replacement fields such as `\x7bowner\x7d`.  A doubled brace stands for
one brace.  A field names one of the values on offer, may pick a part of it, may quote it, and may
pad or cut it.  Pieces are produced from left to right and the first fault met on
the way is the one reported, so an unknown name wins over a stray brace behind it.
-/

namespace FeedWatch.Text

/-- What is wrong with the shape of a template. -/
inductive TemplateFault
  | loneOpen
  | loneClose
  | unclosedField
  | braceInName
  | noConversion
  | colonAfterConversion
  | unknownConversion (c : Char)
  | unclosedLayout
  | tooManyDigits
  | emptyAccess
  | afterBracket
  | tooDeep
  | noPrecision
  | badLayout (layout : String)
  | signInLayout (c : Char)
  | zeroInLayout
  | alternateInLayout
  | groupingInLayout (grouping kind : Char)
  | bothGroupings
  | alignByDigits
  | unknownLayout (c : Char)
deriving DecidableEq

/-- Why a template has no value. -/
inductive TemplateError
  /-- The field names no value on offer. -/
  | unknownName (name : String)
  /-- The field asks for a value by position, and values are offered by name only. -/
  | noPosition
  /-- The field asks for a position past the end of its value. -/
  | outOfRange
  /-- The field asks for a part by a name that its value does not know. -/
  | noAttribute
  /-- The position inside a value is not a number, or the value has no positions. -/
  | badPosition
  /-- The field lays out what is not a text. -/
  | noLayout
  /-- The field asks for more characters than can be held. -/
  | tooWide
  | malformed (fault : TemplateFault)
deriving DecidableEq

private def shownCode (c : Char) : String :=
  if 32 < c.toNat && c.toNat < 128 then String.singleton c
  else "\\x" ++ String.ofList (Nat.toDigits 16 c.toNat)

/-- The wording of a fault. -/
def TemplateFault.message : TemplateFault → String
  | loneOpen => "Single '\x7b' encountered in format string"
  | loneClose => "Single '\x7d' encountered in format string"
  | unclosedField => "expected '\x7d' before end of string"
  | braceInName => "unexpected '\x7b' in field name"
  | noConversion => "end of string while looking for conversion specifier"
  | colonAfterConversion => "expected ':' after conversion specifier"
  | unknownConversion c => "Unknown conversion specifier " ++ shownCode c
  | unclosedLayout => "unmatched '\x7b' in format spec"
  | tooManyDigits => "Too many decimal digits in format string"
  | emptyAccess => "Empty attribute in format string"
  | afterBracket => "Only '.' or '[' may follow ']' in format field specifier"
  | tooDeep => "Max string recursion exceeded"
  | noPrecision => "Format specifier missing precision"
  | badLayout layout => "Invalid format specifier '" ++ layout ++ "' for object of type 'str'"
  | signInLayout c =>
    if c = ' ' then "Space not allowed in string format specifier"
    else "Sign not allowed in string format specifier"
  | zeroInLayout => "Negative zero coercion (z) not allowed in string format specifier"
  | alternateInLayout => "Alternate form (#) not allowed in string format specifier"
  | groupingInLayout c kind =>
    "Cannot specify '" ++ String.singleton c ++ "' with '" ++ shownCode kind ++ "'."
  | bothGroupings => "Cannot specify both ',' and '_'."
  | alignByDigits => "'=' alignment not allowed in string format specifier"
  | unknownLayout c =>
    "Unknown format code '" ++ shownCode c ++ "' for object of type 'str'"

namespace Template

/-- A piece of a template, in the order met. -/
inductive Piece
  | text (s : List Char)
  | field (name : List Char) (conversion : Option Char) (layout : List Char)
  | broken (fault : TemplateFault)

/-- Reads a field's name up to the brace, colon or exclamation mark that ends it; a bracketed part
hides these marks. -/
def readName (inBrackets : Bool) : List Char → Except TemplateFault (List Char × Char × List Char)
  | [] => .error .unclosedField
  | c :: rest =>
    if inBrackets then do
      let (name, stop, rest) ← readName (c != ']') rest
      return (c :: name, stop, rest)
    else if c = '\x7b' then .error .braceInName
    else if c = '\x7d' || c = ':' || c = '!' then .ok ([], c, rest)
    else do
      let (name, stop, rest) ← readName (c == '[') rest
      return (c :: name, stop, rest)

/-- Reads a layout up to the brace that closes the field, `depth` braces being open. -/
def readLayout (depth : Nat) : List Char → Except TemplateFault (List Char × List Char)
  | [] => .error .unclosedLayout
  | c :: rest =>
    if c = '\x7d' && depth == 0 then .ok ([], rest)
    else do
      let depth := if c = '\x7b' then depth + 1 else if c = '\x7d' then depth - 1 else depth
      let (layout, rest) ← readLayout depth rest
      return (c :: layout, rest)

/-- Reads a field after its opening brace. -/
def readField (s : List Char) : Except TemplateFault (Piece × List Char) := do
  let (name, stop, rest) ← readName false s
  if stop = '\x7d' then return (.field name none [], rest)
  if stop = ':' then
    let (layout, rest) ← readLayout 0 rest
    return (.field name none layout, rest)
  match rest with
  | [] => .error .noConversion
  | [_] => .error .unclosedLayout
  | c :: '\x7d' :: rest => return (.field name (some c) [], rest)
  | c :: ':' :: rest =>
    let (layout, rest) ← readLayout 0 rest
    return (.field name (some c) layout, rest)
  | _ => .error .colonAfterConversion

/-- The pieces of a template; `fuel` bounds the number of pieces. -/
def piecesFrom : Nat → List Char → List Piece
  | 0, _ => []
  | fuel + 1, s =>
    let plain := s.takeWhile fun c => c != '\x7b' && c != '\x7d'
    match s.dropWhile fun c => c != '\x7b' && c != '\x7d' with
    | [] => [.text plain]
    | ['\x7b'] => [.broken .loneOpen]
    | ['\x7d'] => [.broken .loneClose]
    | c :: d :: rest =>
      if c = d then .text (plain ++ [c]) :: piecesFrom fuel rest
      else if c = '\x7d' then [.broken .loneClose]
      else
        match readField (d :: rest) with
        | .ok (field, rest) => .text plain :: field :: piecesFrom fuel rest
        | .error fault => [.broken fault]
    | [_] => []

/-- The pieces of a template. -/
def pieces (s : List Char) : List Piece := piecesFrom (s.length + 1) s

/-- Reads on a number of decimal digits of any script, `n` being read already.  Digits past the
greatest position are a fault as soon as they are met, whatever stands behind them. -/
def readPosition (n : Nat) : List Char → Except TemplateFault (Option Nat)
  | [] => .ok (some n)
  | c :: rest =>
    match digitValue? c with
    | none => .ok none
    | some d =>
      if n > (longWordLimit - 1 - d) / 10 then .error .tooManyDigits
      else readPosition (10 * n + d) rest

/-- The number that a text of decimal digits of any script denotes; the empty text is none. -/
def position? (s : List Char) : Except TemplateFault (Option Nat) :=
  if s.isEmpty then .ok none else readPosition 0 s

/-- The part of a value at a position; a place that is no number is `none`. -/
def atPlace (number : Option Nat) : Part → Except TemplateError Part
  | .text s =>
    match number with
    | none => .error .badPosition
    | some i => (s[i]?).elim (.error .outOfRange) fun c => .ok (.text [c])
  | .row items =>
    match number with
    | none => .error .badPosition
    | some i => (items[i]?).elim (.error .outOfRange) fun k => .ok (.kind k)
  | _ => .error .badPosition

/-- Picks parts of a value as the accesses behind a field's name say. -/
def access : Nat → List Char → Part → Except TemplateError Part
  | 0, _, value => .ok value
  | _, [], value => .ok value
  | fuel + 1, c :: path, value =>
    if c = '.' then
      let name := path.takeWhile fun c => c != '.' && c != '['
      if name.isEmpty then .error (.malformed .emptyAccess)
      else
        match value.byName? (String.ofList name) with
        | none => .error .noAttribute
        | some part => access fuel (path.drop name.length) part
    else if c = '[' then
      let index := path.takeWhile (· != ']')
      match position? index with
      | .error fault => .error (.malformed fault)
      | .ok number =>
        if index.isEmpty then .error (.malformed .emptyAccess)
        else
          match atPlace number value with
          | .error e => .error e
          | .ok part => access fuel ((path.dropWhile (· != ']')).drop 1) part
    else .error (.malformed .afterBracket)

/-- How a value is padded and cut. -/
structure Layout where
  fill : Char := ' '
  align : Char := '<'
  width : Nat := 0
  cut : Option Nat := none

private def isAlign (c : Char) : Bool := c = '<' || c = '>' || c = '=' || c = '^'

/-- Whether a separator of thousands may stand with the code. -/
private def takesGrouping (grouping kind : Char) : Bool :=
  ['d', 'e', 'f', 'g', 'E', 'G', '%', 'F', '\x00'].contains kind ||
    grouping = '_' && ['b', 'o', 'x', 'X'].contains kind

private def readNumber (s : List Char) : Except TemplateFault (Option Nat × List Char) := do
  let digits := s.takeWhile fun c => (digitValue? c).isSome
  return (← position? digits, s.drop digits.length)

/-- Reads a layout: fill and alignment, width, and the greatest length. -/
def layout? (s : List Char) : Except TemplateFault Layout := do
  let (fill, align, rest) : Option Char × Option Char × List Char :=
    match s with
    | c :: d :: rest =>
      if isAlign d then (some c, some d, rest)
      else if isAlign c then (none, some c, d :: rest)
      else (none, none, s)
    | [c] => if isAlign c then (none, some c, []) else (none, none, s)
    | [] => (none, none, [])
  let (sign, rest) : Option Char × List Char :=
    match rest with
    | c :: rest =>
      if c = ' ' || c = '+' || c = '-' then (some c, rest) else (none, c :: rest)
    | [] => (none, [])
  let (coerced, rest) : Bool × List Char :=
    match rest with
    | 'z' :: rest => (true, rest)
    | rest => (false, rest)
  let (alternate, rest) : Bool × List Char :=
    match rest with
    | '#' :: rest => (true, rest)
    | rest => (false, rest)
  let (fill, rest) : Option Char × List Char :=
    match fill, rest with
    | none, '0' :: rest => (some '0', rest)
    | fill, rest => (fill, rest)
  let (width, rest) ← readNumber rest
  let (grouping, rest) ← match rest with
    | ',' :: '_' :: _ => throw .bothGroupings
    | '_' :: ',' :: _ => throw .bothGroupings
    | ',' :: rest => pure (some ',', rest)
    | '_' :: rest => pure (some '_', rest)
    | rest => pure (none, rest)
  let (cut, rest) ← match rest with
    | '.' :: rest => do
      let (cut, rest) ← readNumber rest
      if cut.isNone then throw .noPrecision
      pure (cut, rest)
    | rest => pure (none, rest)
  if rest.length > 1 then throw (.badLayout (String.ofList s))
  let kind := rest.head?.getD 's'
  if let some c := grouping then
    if !takesGrouping c kind then throw (.groupingInLayout c kind)
  if kind != 's' then throw (.unknownLayout kind)
  if let some c := sign then throw (.signInLayout c)
  if coerced then throw .zeroInLayout
  if alternate then throw .alternateInLayout
  if align == some '=' then throw .alignByDigits
  return { fill := fill.getD ' ', align := align.getD '<', width := width.getD 0, cut := cut }

/-- Pads and cuts a value. -/
def Layout.apply (l : Layout) (value : List Char) : List Char :=
  let value := match l.cut with
    | none => value
    | some n => value.take n
  let missing := l.width - value.length
  let before :=
    if l.align = '<' then 0 else if l.align = '>' then missing else missing / 2
  List.replicate before l.fill ++ value ++ List.replicate (missing - before) l.fill

/-- The value of a field without its layout. -/
def fieldValue (values : List (String × String)) (name : List Char) (conversion : Option Char) :
    Except TemplateError Part := do
  let first := name.takeWhile fun c => c != '.' && c != '['
  let path := name.drop first.length
  match position? first with
  | .error fault => throw (.malformed fault)
  | .ok (some _) => throw .noPosition
  | .ok none => pure ()
  if first.isEmpty then throw .noPosition
  let some value := values.lookup (String.ofList first)
    | throw (.unknownName (String.ofList first))
  let part ← access path.length path (.text value.toList)
  match conversion with
  | none | some '\x00' => return part
  | some 's' => return .text part.written
  | some 'r' => return .text part.shown
  | some 'a' => return .text (asciiOnly part.shown)
  | some c => throw (.malformed (.unknownConversion c))

/-- The text of a value under a layout; only a text can be laid out. -/
def layOut (value : Part) (layout : List Char) : Except TemplateError (List Char) :=
  if layout.isEmpty then .ok value.written
  else
    match value with
    | .text s =>
      match layout? layout with
      | .error fault => .error (.malformed fault)
      | .ok l => if widthLimit ≤ l.width then .error .tooWide else .ok (l.apply s)
    | _ => .error .noLayout

/-- Replaces every field by its value; a layout may hold fields of its own, `depth` levels deep. -/
def fill : Nat → List (String × String) → List Char → Except TemplateError (List Char)
  | 0, _, _ => .error (.malformed .tooDeep)
  | depth + 1, values, template =>
    (pieces template).foldlM (fun written piece =>
      match piece with
      | .text s => .ok (written ++ s)
      | .broken fault => .error (.malformed fault)
      | .field name conversion layout => do
        let value ← fieldValue values name conversion
        let layout ← if layout.contains '\x7b' then fill depth values layout else pure layout
        return written ++ (← layOut value layout)) []

end Template

/-- The text of a template over the named values. -/
def fillTemplate (template : String) (values : List (String × String)) :
    Except TemplateError String :=
  (Template.fill 2 values template.toList).map String.ofList

end FeedWatch.Text
