/-! Similarity of texts: how much of two texts lies in blocks that they share. The longest block
counts first, then the blocks on either side of it. A misspelt name is answered with names that
are similar to it.
-/

namespace DirectoryRoutes.Text

/-- A block that two texts share: where it begins in each of them, and its length. -/
structure Block where
  first : Nat
  second : Nat
  size : Nat

/-- The length of what two texts share at their front. -/
def commonLength : List Char → List Char → Nat
  | a :: as, b :: bs => if a = b then commonLength as bs + 1 else 0
  | _, _ => 0

/-- The longer of a block and those that begin with the first text and somewhere in the second,
which begins at the position `second`; of equally long ones the earliest.
-/
def longestFrom (a : List Char) (first second : Nat) (best : Block) : List Char → Block
  | [] => best
  | c :: b =>
      let size := commonLength a (c :: b)
      longestFrom a first (second + 1) (if best.size < size then ⟨first, second, size⟩ else best) b

/-- The longest of a block and those that begin anywhere in the first text, which begins at the
position `first`, and anywhere in the second.
-/
def longest (b : List Char) (first : Nat) (best : Block) : List Char → Block
  | [] => best
  | c :: a => longest b (first + 1) (longestFrom (c :: a) first 0 best b) a

def longestBlock (a b : List Char) : Block :=
  longest b 0 ⟨0, 0, 0⟩ a

/-- What is before a character is shorter than the text. -/
theorem length_take_lt {a : List Char} {n : Nat} (h : n < a.length)
    : (a.take n).length < a.length := by
  rw [List.length_take]
  omega

/-- What is behind a block that is not empty is shorter than the text. -/
theorem length_drop_lt {a : List Char} {n size : Nat} (h : n < a.length) (hs : 0 < size)
    : (a.drop (n + size)).length < a.length := by
  rw [List.length_drop]
  omega

/-- The number of characters in the blocks that two texts share. -/
def sharedLength (a b : List Char) : Nat :=
  let block := longestBlock a b
  if h : block.first < a.length ∧ 0 < block.size then
    have := length_take_lt h.1
    have := length_drop_lt h.1 h.2
    sharedLength (a.take block.first) (b.take block.second) + block.size
      + sharedLength (a.drop (block.first + block.size)) (b.drop (block.second + block.size))
  else 0
termination_by a.length
decreasing_by all_goals assumption

/-- The shared blocks make up at least three fifths of two texts. -/
def isSimilar (a b : String) : Bool :=
  3 * (a.length + b.length) ≤ 10 * sharedLength a.toList b.toList

/-- The first of two candidates has a larger share of blocks in common with a word than the
second; of two equal shares the later one in the order of texts comes first.
-/
def ranksBefore (word a b : String) : Bool :=
  let shareOfA := sharedLength a.toList word.toList * (b.length + word.length)
  let shareOfB := sharedLength b.toList word.toList * (a.length + word.length)
  shareOfB < shareOfA || (shareOfA = shareOfB && (compare a b).isGE)

/-- The candidates that are most similar to a word, at most three, in the order of texts. -/
def similarTo (word : String) (candidates : List String) : List String :=
  let best := ((candidates.filter (isSimilar · word)).mergeSort (ranksBefore word)).take 3
  best.mergeSort fun a b => (compare a b).isLE

end DirectoryRoutes.Text
