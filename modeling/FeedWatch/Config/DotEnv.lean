import FeedWatch.Text.Blank

/-!
# Files of variables

A file of variables gives one variable a line, as `NAME=value`, and may say `export` first.  A name
may be quoted, and so may a value, which may then run over several lines and hold escapes.  A value
without quotes ends before a space and a `#`, and is empty if that is all there is.  A name without
a value stands for a variable that is known and has none.  A line of any other form is left out.

A value may mention a variable as `$\x7bNAME\x7d` or, with a text to take if there is none, as
`$\x7bNAME:-text\x7d`.
-/

namespace FeedWatch.Config.DotEnv

/-- A variable that a file names, with the value as it is written. -/
structure Assignment where
  name : String
  value : Option String
deriving DecidableEq

/-- A space that does not end the line. -/
def isGap (c : Char) : Bool := Text.isSpace c && c != '\n' && c != '\r'

def isLineEnd (c : Char) : Bool := c == '\n' || c == '\r'

def skipGap (s : List Char) : List Char := s.dropWhile isGap

/-- Splits a text at the quote that closes it.  A quote behind a backslash closes the text only if
no later quote does. -/
def closeQuote (quote : Char) : List Char → Option (List Char × List Char)
  | [] => none
  | '\\' :: c :: rest =>
    if c = quote then
      match closeQuote quote rest with
      | some (inside, rest) => some ('\\' :: c :: inside, rest)
      | none => some (['\\'], rest)
    else (closeQuote quote (c :: rest)).map fun (inside, rest) => ('\\' :: inside, rest)
  | c :: rest =>
    if c = quote then some ([], rest)
    else (closeQuote quote rest).map fun (inside, rest) => (c :: inside, rest)

/-- Replaces the escapes of a text; a backslash before any other character stands for itself. -/
def unescape (escape : Char → Option Char) : List Char → List Char
  | [] => []
  | '\\' :: c :: rest =>
    match escape c with
    | some d => d :: unescape escape rest
    | none => '\\' :: unescape escape (c :: rest)
  | c :: rest => c :: unescape escape rest

/-- The escapes between single quotes. -/
def singleEscape (c : Char) : Option Char := if c = '\\' || c = '\'' then some c else none

/-- The escapes between double quotes. -/
def doubleEscape : Char → Option Char
  | '\\' => some '\\'
  | '\'' => some '\''
  | '"' => some '"'
  | 'a' => some '\x07'
  | 'b' => some '\x08'
  | 'f' => some '\x0c'
  | 'n' => some '\n'
  | 'r' => some '\r'
  | 't' => some '\t'
  | 'v' => some '\x0b'
  | _ => none

/-- Cuts a text before the first spaces that a `#` follows. -/
def cutRemark : List Char → List Char
  | [] => []
  | c :: rest =>
    if Text.isSpace c && (rest.dropWhile Text.isSpace).head? == some '#' then []
    else c :: cutRemark rest

/-- Reads a value, none where a quote is not closed. -/
def readValue (s : List Char) : Option (List Char × List Char) :=
  match s with
  | '\'' :: rest =>
    (closeQuote '\'' rest).map fun (inside, rest) => (unescape singleEscape inside, rest)
  | '"' :: rest =>
    (closeQuote '"' rest).map fun (inside, rest) => (unescape doubleEscape inside, rest)
  | s =>
    let line := s.takeWhile fun c => !isLineEnd c
    some (Text.trimRight Text.isSpace (cutRemark line), s.dropWhile fun c => !isLineEnd c)

/-- Reads a name, which is missing before a remark. -/
def readName (s : List Char) : Option (Option (List Char) × List Char) :=
  match s with
  | '#' :: _ => some (none, s)
  | '\'' :: rest =>
    match rest.takeWhile (· != '\''), rest.dropWhile (· != '\'') with
    | [], _ => none
    | _, [] => none
    | name, _ :: rest => some (some name, rest)
  | s =>
    let inName := fun c => c != '=' && c != '#' && !Text.isSpace c
    let name := s.takeWhile inName
    if name.isEmpty then none else some (some name, s.dropWhile inName)

/-- The rest of a text behind `export` and a gap, or the text itself. -/
def skipExport (s : List Char) : List Char :=
  if "export".toList.isPrefixOf s then
    let rest := s.drop 6
    if rest.head?.any isGap then skipGap rest else s
  else s

/-- The rest of a text behind a remark, if one stands there. -/
def skipRemark (s : List Char) : List Char :=
  match skipGap s with
  | '#' :: rest => rest.dropWhile fun c => !isLineEnd c
  | _ => s

/-- The rest of a text behind the end of its line, if only a gap stands before that. -/
def endLine? (s : List Char) : Option (List Char) :=
  match skipGap s with
  | [] => some []
  | '\r' :: '\n' :: rest => some rest
  | c :: rest => if isLineEnd c then some rest else none

/-- The rest of a text behind its line. -/
def skipLine (s : List Char) : List Char := (s.dropWhile fun c => !isLineEnd c).drop 1

/-- Reads what stands behind a name: the value, if any, a remark and the end of the line.  Where the
line has another form, the rest of the text behind it is given instead. -/
def readRest (s : List Char) : Except (List Char) (Option (List Char) × List Char) :=
  let finish (value : Option (List Char)) (s : List Char) :=
    let s := skipRemark s
    match endLine? s with
    | some rest => .ok (value, rest)
    | none => .error (skipLine s)
  match skipGap s with
  | '=' :: rest =>
    let start := skipGap rest
    if start.length < rest.length && start.head? == some '#' then finish (some []) start
    else
      match readValue start with
      | some (value, rest) => finish (some value) rest
      | none => .error (skipLine start)
  | s => finish none s

/-- The assignments of a text in order; `fuel` bounds the number of lines. -/
def readFrom : Nat → List Char → List Assignment
  | 0, _ => []
  | fuel + 1, s =>
    let s := s.dropWhile Text.isSpace
    if s.isEmpty then []
    else
      let s := skipExport s
      match readName s with
      | none => readFrom fuel (skipLine s)
      | some (name, rest) =>
        match readRest rest with
        | .error rest => readFrom fuel rest
        | .ok (value, rest) =>
          match name with
          | none => readFrom fuel rest
          | some name =>
            ⟨String.ofList name, value.map String.ofList⟩ :: readFrom fuel rest

/-- A text without the byte order mark in front of it. -/
def withoutMark : List Char → List Char
  | '\ufeff' :: rest => rest
  | s => s

/-- The assignments of a file in order; a byte order mark at its start is passed over. -/
def read (text : String) : List Assignment :=
  readFrom (text.length + 1) (withoutMark text.toList)

/-- A mention of a variable at the front of a text: its name, the text to take if there is none, and
the rest. -/
def mention? (s : List Char) : Option (List Char × List Char × List Char) :=
  match s with
  | '$' :: '\x7b' :: s =>
    match s.dropWhile fun c => c != '\x7d' && c != ':' with
    | '\x7d' :: rest => some (s.takeWhile fun c => c != '\x7d' && c != ':', [], rest)
    | ':' :: '-' :: other =>
      match other.dropWhile (· != '\x7d') with
      | _ :: rest =>
        some (s.takeWhile fun c => c != '\x7d' && c != ':', other.takeWhile (· != '\x7d'), rest)
      | [] => none
    | _ => none
  | _ => none

/-- Replaces the mentions in a text; `fuel` bounds its length.  A variable that is known and has no
value counts as empty. -/
def expandFrom (value : String → Option (Option String)) : Nat → List Char → List Char
  | 0, _ => []
  | _, [] => []
  | fuel + 1, c :: rest =>
    match mention? (c :: rest) with
    | some (name, other, rest) =>
      let found := match value (String.ofList name) with
        | some v => (v.getD "").toList
        | none => other
      found ++ expandFrom value fuel rest
    | none => c :: expandFrom value fuel rest

/-- Gives a name a value; a name that has one keeps its place. -/
def assign (name : String) (value : Option String) :
    List (String × Option String) → List (String × Option String)
  | [] => [(name, value)]
  | (k, v) :: rest => if k = name then (k, value) :: rest else (k, v) :: assign name value rest

/-- The values of the variables that a file names.  A mention is looked up among the variables above
it and then in the environment. -/
def values (environment : List (String × String)) (file : List Assignment) :
    List (String × Option String) :=
  file.foldl (fun known a =>
    let value := fun name =>
      match known.lookup name with
      | some v => some v
      | none => (environment.lookup name).map some
    assign a.name (a.value.map fun v =>
      String.ofList (expandFrom value (v.length + 1) v.toList)) known) []

end FeedWatch.Config.DotEnv
