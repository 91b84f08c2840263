/-!
# Similar words

How similar two words are is told by the letters that they share: the longest part that both have, and then, on both
sides of it, what they share there. Words that are similar enough to one that was not found are offered in its place.
-/

namespace PointOfFocus.Text

/-- A part that two texts have in common: where it starts in each of them and how long it is. -/
structure SharedBlock where
  /-- The start in the first text. -/
  left : Nat
  /-- The start in the second text. -/
  right : Nat
  /-- The length. -/
  size : Nat

/-- The number of characters that two texts start with in common. -/
def commonStart : List Char → List Char → Nat
  | a :: as, b :: bs => if a = b then commonStart as bs + 1 else 0
  | _, _ => 0

/-- The longest part that starts at the start of the first text, which is its position `left`. The earliest part of the
second text wins. -/
def longestHere (left : Nat) (as : List Char) (best : SharedBlock) : (right : Nat) → List Char → SharedBlock
  | _, [] => best
  | right, b :: bs =>
    let size := commonStart as (b :: bs)
    longestHere left as (if best.size < size then ⟨left, right, size⟩ else best) (right + 1) bs

/-- The longest part that two texts have in common, the earliest one if there are several. -/
def longestShared (bs : List Char) (best : SharedBlock) : (left : Nat) → List Char → SharedBlock
  | _, [] => best
  | left, a :: as => longestShared bs (longestHere left (a :: as) best 0 bs) (left + 1) as

/-- The number of characters in the parts that two texts share, found in as many rounds as the first text is long. -/
def sharedCount : Nat → List Char → List Char → Nat
  | 0, _, _ => 0
  | rounds + 1, as, bs =>
    let block := longestShared bs ⟨0, 0, 0⟩ 0 as
    if block.size = 0 then 0
    else
      block.size + sharedCount rounds (as.take block.left) (bs.take block.right)
        + sharedCount rounds (as.drop (block.left + block.size)) (bs.drop (block.right + block.size))

/-- The similarity of two texts as a fraction: twice the shared characters, out of all characters. -/
def similarity (a b : String) : Nat × Nat :=
  (2 * sharedCount a.length a.toList b.toList, a.length + b.length)

/-- Whether two texts share at least six characters out of ten. -/
def isSimilar (a b : String) : Bool :=
  let (shared, all) := similarity a b
  6 * all ≤ 10 * shared

/-- Whether the first of two words is at least as similar to the third as the second is. Of two that are equally
similar the later one in the alphabet comes first. -/
def closerTo (word a b : String) : Bool :=
  let (shared₁, all₁) := similarity a word
  let (shared₂, all₂) := similarity b word
  if shared₁ * all₂ = shared₂ * all₁ then b ≤ a else shared₂ * all₁ < shared₁ * all₂

/-- The words, at most three, that are most similar to the given one, in alphabetical order. -/
def suggestions (word : String) (words : List String) : List String :=
  (((words.filter (isSimilar · word)).mergeSort (closerTo word)).take 3).mergeSort (· ≤ ·)

end PointOfFocus.Text
