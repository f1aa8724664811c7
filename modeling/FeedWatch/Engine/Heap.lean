/-!
# Binary heaps

A heap is an array in which the entry at `i` has the entries at `2 * i + 1` and `2 * i + 2` below
it. What is taken out is the root.  `before` tells which entries come first; entries of which
neither comes before the other are taken out in the order that their places give.

To fill a hole, the hole first goes down to a leaf, the earlier of the two entries below it moving
up, the second one if neither is earlier; from there it rises to the place of the entry for it.
-/

namespace FeedWatch.Heap

variable {α : Type}

/-- Fills the hole at `i`, which rises, but not above `top`, while the entry for it comes before the
one above the hole. -/
def rise (before : α → α → Bool) (top : Nat) (x : α) (i : Nat) (heap : Array α) : Array α :=
  if i ≤ top then heap.setIfInBounds i x
  else
    match heap[(i - 1) / 2]? with
    | none => heap.setIfInBounds i x
    | some above =>
      if before x above then rise before top x ((i - 1) / 2) (heap.setIfInBounds i above)
      else heap.setIfInBounds i x
termination_by i
decreasing_by omega

/-- Adds an entry. -/
def push (before : α → α → Bool) (x : α) (heap : Array α) : Array α :=
  rise before 0 x heap.size (heap.push x)

/-- Moves the hole at `i` down to a leaf; the result is its place there, and the heap around it. -/
def sink (before : α → α → Bool) (i : Nat) (heap : Array α) : Nat × Array α :=
  if h : 2 * i + 1 < heap.size then
    let left := heap[2 * i + 1]
    if h' : 2 * i + 2 < heap.size then
      let right := heap[2 * i + 2]
      if before left right then sink before (2 * i + 1) (heap.setIfInBounds i left)
      else sink before (2 * i + 2) (heap.setIfInBounds i right)
    else sink before (2 * i + 1) (heap.setIfInBounds i left)
  else (i, heap)
termination_by heap.size - i
decreasing_by all_goals simp only [Array.size_setIfInBounds]; omega

/-- Fills the hole at `i` with an entry from elsewhere. -/
def fill (before : α → α → Bool) (x : α) (i : Nat) (heap : Array α) : Array α :=
  let (leaf, heap) := sink before i heap
  rise before i x leaf heap

/-- Takes the root out. -/
def pop? (before : α → α → Bool) (heap : Array α) : Option (α × Array α) :=
  match heap[0]?, heap.back? with
  | some first, some last =>
    let rest := heap.pop
    some (first, if rest.isEmpty then rest else fill before last 0 rest)
  | _, _ => none

/-- Makes a heap of entries in any order, from the last entry with others below it to the root. -/
def ofArray (before : α → α → Bool) (entries : Array α) : Array α :=
  (List.range (entries.size / 2)).foldr (fun i heap =>
    match heap[i]? with
    | some x => fill before x i heap
    | none => heap) entries

end FeedWatch.Heap
