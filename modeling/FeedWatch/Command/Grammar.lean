import FeedWatch.Text.Digit

/-!
# The grammar of a command line

A command line consists of words.  A word that starts with a dash is an option, unless it is a lone
dash, a negative number, or holds a space and resembles no option.  A long option may be shortened
as long as only one option fits, and may carry its value behind an equals sign; short options
without values may share one dash, and an equals sign behind the first of them counts for nothing.
The word `--` divides: all words behind it are plain.  As the value that an option carries it is
left out, and leaves the option without one.

Plain words fill places, in order and as early as possible.  The first divider among the words of a
place is left out.  Words are taken from left to right, and the first word that stops the reading
decides how it ends; a word that nothing takes is refused at the end only.
-/

namespace FeedWatch.Command

/-- An option: its names, whether it takes a value, and which values it takes. -/
structure Switch where
  names : List String
  takesValue : Bool := false
  accepts : String → Bool := fun _ => true

/-- The option that asks for help, which every grammar has. -/
def Switch.help : Switch := { names := ["-h", "--help"] }

/-- How many words a place takes. -/
inductive Count
  | one
  | optional
  | many
  | some
deriving DecidableEq

/-- A place for plain words. -/
structure Place where
  count : Count
  accepts : String → Bool := fun _ => true

/-- The options and places of a command. -/
structure Grammar where
  switches : List Switch := []
  places : List Place := []

/-- Why reading a command line stops: it asks for help, or it is refused. -/
inductive Stop
  | help
  | refused
deriving DecidableEq

/-- The value that a word carries behind the name of an option: none, one behind a long name and an
equals sign, or one that follows the letter of the option. -/
inductive Carried
  | nothing
  | given (value : String)
  | attached (value : String)

/-- Whether a name of an option is a long one. -/
def isLongName (name : String) : Bool := "--".toList.isPrefixOf name.toList

/-- A value behind the name of an option and an equals sign. -/
def Carried.behind (name value : String) : Carried :=
  if isLongName name then .given value else .attached value

/-- A word that names an option, with the value that it carries. -/
structure Mention where
  switch : Switch
  value : Carried

/-- What a word is, before it is read. -/
inductive Mark
  | plain
  | divider
  | unknownOption
  | option (m : Mention)

/-- A word with what it is. -/
structure Word where
  mark : Mark
  text : String

namespace Word

def isOption (w : Word) : Bool :=
  match w.mark with
  | .unknownOption => true
  | .option _ => true
  | _ => false

def isPlain (w : Word) : Bool :=
  match w.mark with
  | .plain => true
  | _ => false

def isDivider (w : Word) : Bool :=
  match w.mark with
  | .divider => true
  | _ => false

end Word

/-- The words that a place takes from the front, if it can be filled. -/
def Place.take (p : Place) (words : List Word) : Option (List Word × List Word) :=
  let lead := words.takeWhile Word.isDivider
  let rest := words.dropWhile Word.isDivider
  let inRun := fun w => Word.isPlain w || Word.isDivider w
  match p.count, rest with
  | .many, _ => some (lead ++ rest.takeWhile inRun, rest.dropWhile inRun)
  | .some, w :: _ =>
    if w.isPlain then some (lead ++ rest.takeWhile inRun, rest.dropWhile inRun) else none
  | .some, [] => none
  | .one, w :: after =>
    if w.isPlain then
      some (lead ++ w :: after.takeWhile Word.isDivider, after.dropWhile Word.isDivider)
    else none
  | .one, [] => none
  | .optional, w :: after =>
    if w.isPlain then
      some (lead ++ w :: after.takeWhile Word.isDivider, after.dropWhile Word.isDivider)
    else some (lead, rest)
  | .optional, [] => some (lead, [])

/-- The word that divides. -/
def divider : String := "--"

namespace Grammar

/-- All options of a grammar. -/
def allSwitches (g : Grammar) : List Switch := Switch.help :: g.switches

/-- The option with a name. -/
def find? (g : Grammar) (name : String) : Option Switch :=
  g.allSwitches.find? (·.names.contains name)

/-- A text up to the first equals sign, and what stands behind it. -/
def splitValue? (s : List Char) : Option (String × String) :=
  match s.dropWhile (· != '=') with
  | [] => none
  | _ :: value => some (String.ofList (s.takeWhile (· != '=')), String.ofList value)

/-- Whether a text is a dash and a number without a power of ten. -/
def isNegativeNumber (s : List Char) : Bool :=
  let isDigit := fun c => (Text.digitValue? c).isSome
  match s with
  | '-' :: s =>
    let s := if s.getLast? = some '\n' then s.dropLast else s
    match s.dropWhile isDigit with
    | [] => !s.isEmpty
    | '.' :: places => !places.isEmpty && places.all isDigit
    | _ => false
  | _ => false

/-- The options that a word may be short for.  Behind one dash the first letter may be an option and
the rest its value. -/
def shortFor (g : Grammar) (word : String) : List Mention :=
  let names := g.allSwitches.flatMap fun s => s.names.map fun name => (s, name)
  match word.toList with
  | '-' :: '-' :: _ =>
    let (start, value) := match splitValue? word.toList with
      | some (start, value) => (start, Carried.given value)
      | none => (word, .nothing)
    names.filterMap fun (switch, name) =>
      if start.toList.isPrefixOf name.toList then some { switch, value } else none
  | '-' :: c :: rest =>
    names.filterMap fun (switch, name) =>
      if name == String.ofList ['-', c] then
        some { switch, value := .attached (String.ofList rest) }
      else if word.toList.isPrefixOf name.toList then some { switch, value := .nothing }
      else none
  | _ => []

/-- What a word is that starts with a dash and more. -/
def markDashed (g : Grammar) (word : String) : Except Stop Mark :=
  match g.find? word with
  | some switch => .ok (.option { switch, value := .nothing })
  | none =>
    let written := match splitValue? word.toList with
      | some (name, value) =>
        (g.find? name).map fun switch => Mention.mk switch (.behind name value)
      | none => none
    match written with
    | some m => .ok (.option m)
    | none =>
      match g.shortFor word with
      | [m] => .ok (.option m)
      | _ :: _ :: _ => .error .refused
      | [] =>
        if isNegativeNumber word.toList || word.toList.contains ' ' then .ok .plain
        else .ok .unknownOption

/-- What a word is before the divider. -/
def mark (g : Grammar) (word : String) : Except Stop Mark :=
  match word.toList with
  | '-' :: _ :: _ => g.markDashed word
  | _ => .ok .plain

/-- The words of a command line with what they are. -/
def words (g : Grammar) : List String → Except Stop (List Word)
  | [] => .ok []
  | text :: rest =>
    if text = divider then .ok (⟨.divider, text⟩ :: rest.map fun text => ⟨.plain, text⟩)
    else do
      let mark ← g.mark text
      return ⟨mark, text⟩ :: (← g.words rest)

/-- What has been read: the options without values, the values of the others, from which a divider
is left out, the words in the places, and whether there was a word that nothing takes. -/
structure Reading where
  flags : List String := []
  values : List (String × Option String) := []
  places : List (List String) := []
  hasSurplus : Bool := false

namespace Reading

/-- The last use of an option, with the value unless that was left out. -/
def use? (r : Reading) (name : String) : Option (Option String) := r.values.reverse.lookup name

/-- The last value of an option. -/
def value? (r : Reading) (name : String) : Option String := (r.use? name).join

/-- The words in a place. -/
def wordsAt (r : Reading) (place : Nat) : List String := r.places.getD place []

/-- The word in a place. -/
def textAt (r : Reading) (place : Nat) : String := (r.wordsAt place).headD ""

end Reading

/-- The first name of an option, by which it is known. -/
def known (s : Switch) : String := s.names.getLastD ""

/-- What letters carry behind the letter of an option. -/
def carriedBy : List Char → Carried
  | [] => .nothing
  | letters => .attached (String.ofList letters)

/-- Options that have been read out of one word, and the words behind it. -/
structure Cluster where
  uses : List (Switch × Option String)
  rest : List Word

/-- Reads the options in a word, each letter of which must be one; `fuel` bounds their number. -/
def readCluster (g : Grammar) : Nat → Mention → List Word → Except Stop Cluster
  | 0, _, _ => .error .refused
  | fuel + 1, m, rest =>
    if m.switch.takesValue then
      match m.value, rest with
      | .given value, _ => .ok ⟨[(m.switch, some value)], rest⟩
      | .attached value, _ => .ok ⟨[(m.switch, some value)], rest⟩
      | .nothing, w :: rest =>
        if w.isPlain then .ok ⟨[(m.switch, some w.text)], rest⟩ else .error .refused
      | .nothing, [] => .error .refused
    else
      match m.value with
      | .nothing => .ok ⟨[(m.switch, none)], rest⟩
      | .given _ => .error .refused
      | .attached value =>
        match value.toList with
        | [] => .error .refused
        | c :: letters =>
          match g.find? (String.ofList ['-', c]) with
          | none => .error .refused
          | some switch => do
            let cluster ← g.readCluster fuel { switch, value := carriedBy letters } rest
            return { cluster with uses := (m.switch, none) :: cluster.uses }

/-- Counts an option that has been read. -/
def use (r : Reading) : Switch × Option String → Except Stop Reading
  | (s, value) =>
    if known s = known Switch.help then .error .help
    else
      match value with
      | none => .ok { r with flags := r.flags ++ [known s] }
      | some value =>
        if value = divider then .ok { r with values := r.values ++ [(known s, none)] }
        else if s.accepts value then .ok { r with values := r.values ++ [(known s, some value)] }
        else .error .refused

/-- Reads an option at the front of the words. -/
def readOption (g : Grammar) (r : Reading) (w : Word) (rest : List Word) :
    Except Stop (Reading × List Word) :=
  match w.mark with
  | .option m => do
    let cluster ← g.readCluster (w.text.length + 1) m rest
    return (← cluster.uses.foldlM use r, cluster.rest)
  | _ => .ok ({ r with hasSurplus := true }, rest)

/-- The words that places take from the front, if all can be filled. -/
def takeAll : List Place → List Word → Option (List (List Word) × List Word)
  | [], words => some ([], words)
  | p :: ps, words => do
    let (taken, rest) ← Place.take p words
    let (more, rest) ← takeAll ps rest
    return (taken :: more, rest)

/-- Fills as many places as can be filled, from the first on; `count` bounds their number. -/
def fillPlaces (places : List Place) (words : List Word) :
    Nat → List (List Word) × List Word
  | 0 => ([], words)
  | count + 1 => (takeAll (places.take (count + 1)) words).getD (fillPlaces places words count)

/-- The texts of a place without the first divider. -/
def texts (words : List Word) : List String := (words.map Word.text).erase divider

/-- Counts the words in places; a word that its place does not take stops the reading. -/
def store (r : Reading) : List (Place × List Word) → Except Stop Reading
  | [] => .ok r
  | (p, words) :: more =>
    if (texts words).all p.accepts then
      store { r with places := r.places ++ [texts words] } more
    else .error .refused

/-- Fills places from the front of the words.  What is left is the reading, the places still to be
filled, and the words. -/
def readPlaces (r : Reading) (places : List Place) (words : List Word) :
    Except Stop (Reading × List Place × List Word) := do
  let (taken, rest) := fillPlaces places words places.length
  return (← store r (places.zip taken), places.drop taken.length, rest)

/-- Reads words; `fuel` bounds the number of turns. -/
def readFrom (g : Grammar) : Nat → Reading → List Place → List Word → Except Stop Reading
  | 0, _, _, _ => .error .refused
  | fuel + 1, r, places, words =>
    match words with
    | w :: rest =>
      if w.isOption then do
        let (r, rest) ← g.readOption r w rest
        g.readFrom fuel r places rest
      else if rest.any Word.isOption then do
        let (r, places, left) ← readPlaces r places words
        if left.length < words.length then g.readFrom fuel r places left
        else g.readFrom fuel { r with hasSurplus := true } places (words.dropWhile (!·.isOption))
      else do
        let (r, places, left) ← readPlaces r places words
        if places.isEmpty then return { r with hasSurplus := r.hasSurplus || !left.isEmpty }
        else throw .refused
    | [] => do
      let (r, places, _) ← readPlaces r places []
      if places.isEmpty then return r else throw .refused

/-- Reads the words of a command. -/
def read (g : Grammar) (line : List String) : Except Stop Reading := do
  let words ← g.words line
  g.readFrom (2 * words.length + 1) {} g.places words

end Grammar

end FeedWatch.Command
