/-!
The boundary of the front part of a row, found by tests of few of its items. Where the front part is
what a test says of the items, every way of looking for its end has the same outcome. A test that
changes back and forth along the row has many boundaries, and the order of the questions decides
which of them is found.
-/

set_option autoImplicit false

namespace PersonalFeed.Sorting

/-- The end of a list that a row starts from. A row from the back comes turned around. -/
inductive Direction where
  | forward
  | backward
  deriving DecidableEq, Repr

/-- The place in the middle of a range: of two middles, the one nearer the end of the list. -/
def Direction.middle (direction : Direction) (low high : Nat) : Nat :=
  match direction with
  | forward => low + (high - low) / 2
  | backward => low + (high - low - 1) / 2

theorem Direction.middle_lt {low high : Nat} (direction : Direction) (h : low < high) :
    direction.middle low high < high := by
  cases direction <;> simp only [middle] <;> omega

theorem Direction.le_middle (direction : Direction) (low high : Nat) :
    low ≤ direction.middle low high := by
  cases direction <;> simp only [middle] <;> omega

variable {α : Type}

def halve (direction : Direction) (isFront : α → Bool) (row : List α) (low high : Nat) : Nat :=
  if low < high then
    let middle := direction.middle low high
    if row[middle]?.any isFront then halve direction isFront row (middle + 1) high
    else halve direction isFront row low middle
  else low
termination_by high - low
decreasing_by
  all_goals
    have := direction.middle_lt ‹low < high›
    have := direction.le_middle low high
    omega

/-- Steps of growing width as long as they end in the front part: the last place that is in it, and
the place that bounds the search behind it. -/
def reach (isFront : α → Bool) (row : List α) (last next : Nat) : Nat × Nat :=
  if next < row.length then
    if row[next]?.any isFront then reach isFront row next (2 * next + 1) else (last, next)
  else (last, row.length)
termination_by row.length - next
decreasing_by omega

def gallop (direction : Direction) (isFront : α → Bool) (row : List α) : Nat :=
  if row.head?.any isFront then
    let (last, next) := reach isFront row 0 1
    halve direction isFront row (last + 1) next
  else 0

end PersonalFeed.Sorting
