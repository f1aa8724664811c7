import FeedWatch.Text.CaseTable

/-!
# Lower case

Full lower-casing of a text.  Every character is lowered by itself, with two exceptions: the capital
dotted I becomes two characters, and a capital sigma becomes a final sigma where it ends a word.  A
sigma ends a word when a cased character stands before it and none after it, looking through the
characters that casing ignores.  `Text.lowerFrom` carries what stands before as one flag.
-/

namespace FeedWatch.Text

/-- Whether casing looks through the character. -/
def isCaseIgnorable (c : Char) : Bool := inRanges c.toNat caseIgnorableRanges

/-- Whether the character is cased. -/
def isCased (c : Char) : Bool := inRanges c.toNat casedRanges

/-- The lower-case code point of a code point, by the sorted runs. -/
def lowerCode (n : Nat) : List CaseRun → Nat
  | [] => n
  | run :: rest =>
    if n ≤ run.hi then
      if run.lo ≤ n && (n - run.lo) % run.step == 0 then (n + run.shift).toNat else n
    else lowerCode n rest

/-- The lower-case form of a character that stands alone. -/
def lowerChar (c : Char) : List Char :=
  if c.toNat = 0x130 then ['i', '\u0307'] else [Char.ofNat (lowerCode c.toNat lowerRuns)]

/-- Whether the next character that casing does not ignore is cased. -/
def casedAhead : List Char → Bool
  | [] => false
  | c :: rest => if isCaseIgnorable c then casedAhead rest else isCased c

/-- Lowers a text; `before` says whether the last character that counts before it is cased. -/
def lowerFrom (before : Bool) : List Char → List Char
  | [] => []
  | c :: rest =>
    let lowered :=
      if c = 'Σ' then if before && !casedAhead rest then ['ς'] else ['σ'] else lowerChar c
    lowered ++ lowerFrom (if isCaseIgnorable c then before else isCased c) rest

/-- The lower-case form of a text. -/
def lower (s : String) : String := String.ofList (lowerFrom false s.toList)

end FeedWatch.Text
