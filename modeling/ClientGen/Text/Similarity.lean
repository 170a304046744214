/-!
# Similar texts

How alike two texts are: the longest block that both contain is counted, then in the same way what
stands on either side of it. Of several longest blocks the one that begins first in the left text
counts, and then the one that begins first in the right text.
-/

namespace ClientGen.Text

/-- How many characters two lists share at their beginning. -/
def commonStart : List Char → List Char → Nat
  | a :: as, b :: bs => if a = b then commonStart as bs + 1 else 0
  | _, _ => 0

/-- Two lists share no more than the left one has. -/
theorem commonStart_le (as bs : List Char) : commonStart as bs ≤ as.length := by
  fun_induction commonStart as bs with
  | case1 a as bs ih => simpa using ih
  | case2 => simp
  | case3 => simp

/-- A block of characters that two lists share. -/
structure SharedBlock where
  /-- Where the block begins in the left list. -/
  left : Nat := 0
  /-- Where it begins in the right list. -/
  right : Nat := 0
  /-- How long it is. -/
  size : Nat := 0
deriving Repr, DecidableEq

/-- The blocks two lists share, in the order of their beginnings. -/
def sharedBlocks (as bs : List Char) : List SharedBlock :=
  (List.range as.length).flatMap fun i =>
    (List.range bs.length).map fun j => ⟨i, j, commonStart (as.drop i) (bs.drop j)⟩

/-- The longer of two blocks, the first when none is. -/
def longer (block other : SharedBlock) : SharedBlock :=
  if block.size < other.size then other else block

/-- The longest block two lists share, the first of its size. -/
def longestBlock (as bs : List Char) : SharedBlock :=
  (sharedBlocks as bs).foldl longer {}

/-- The longest block is the one to begin with or one of the others. -/
theorem foldl_longer_cases (blocks : List SharedBlock) (start : SharedBlock) :
    blocks.foldl longer start = start ∨ blocks.foldl longer start ∈ blocks := by
  induction blocks generalizing start with
  | nil => exact .inl rfl
  | cons block blocks ih =>
    rcases ih (longer start block) with h | h
    · rw [List.foldl_cons, h, longer]
      split
      · exact .inr (.head _)
      · exact .inl rfl
    · exact .inr (.tail _ h)

/-- The longest block ends within the left list. -/
theorem longestBlock_end_le (as bs : List Char) :
    (longestBlock as bs).left + (longestBlock as bs).size ≤ as.length := by
  rcases foldl_longer_cases (sharedBlocks as bs) {} with h | h
  · simp [longestBlock, h]
  · obtain ⟨i, hi, h⟩ := List.mem_flatMap.mp h
    obtain ⟨j, _, h⟩ := List.mem_map.mp h
    have hi := List.mem_range.mp hi
    have hsize := commonStart_le (as.drop i) (bs.drop j)
    rw [List.length_drop] at hsize
    rw [longestBlock, ← h]
    simp only
    omega

/-- How many characters two lists share in blocks that stand in the same order. -/
def sharedSize (as bs : List Char) : Nat :=
  let block := longestBlock as bs
  if 0 < block.size then
    sharedSize (as.take block.left) (bs.take block.right) + block.size +
      sharedSize (as.drop (block.left + block.size)) (bs.drop (block.right + block.size))
  else 0
termination_by as.length
decreasing_by
  all_goals
    have hend := longestBlock_end_le as bs
    have hsize : 0 < (longestBlock as bs).size := by assumption
    simp only [List.length_take, List.length_drop]
    omega

/-- Are two texts alike? At least three fifths of their characters have to be shared. -/
def isClose (left right : String) : Bool :=
  decide (3 * (left.length + right.length) ≤
    10 * sharedSize left.toList right.toList)

end ClientGen.Text
