/-!
# Words

A word holds integers from below zero to above it, as many on the one side as on the other with
zero; a long word is twice as wide.  Numbers that are kept in words are refused when they do not
fit.
-/

namespace FeedWatch

/-- The least natural number that does not fit into a word. -/
def wordLimit : Nat := 2147483648

/-- The least natural number that does not fit into a long word. -/
def longWordLimit : Nat := 9223372036854775808

/-- Whether an integer fits into a word. -/
def fitsWord (i : Int) : Bool := -(wordLimit : Int) ≤ i && i < wordLimit

/-- Whether an integer fits into a long word. -/
def fitsLongWord (i : Int) : Bool := -(longWordLimit : Int) ≤ i && i < longWordLimit

end FeedWatch
