import PersonalFeed.Vector.Embedding

/-!
Cosine similarity of embeddings. Sums are taken by pairwise halving over blocks of eight running
sums, so that a score depends on the two vectors only and never on the batch it is computed in.
The zero vector has no direction: it stays zero and is similar to nothing.
-/

set_option autoImplicit false

namespace PersonalFeed

open Scalar

section

variable {C : Type} [Scalar C]

/-- The sum of `count` entries from `start` on, one after the other. -/
def sequentialSum (xs : Array C) (start count : Nat) (sum : C) : C :=
  match count with
  | 0 => sum
  | count + 1 => sequentialSum xs (start + 1) count (sum + xs.getD start zero)

def groupSums (xs : Array C) (start : Nat) (groups : Nat) (sums : Array C) : Array C :=
  match groups with
  | 0 => sums
  | groups + 1 =>
    groupSums xs (start + 8) groups (sums.mapIdx fun i sum => sum + xs.getD (start + i) zero)

def blockSum (xs : Array C) (start count : Nat) : C :=
  let sums := groupSums xs (start + 8) (count / 8 - 1) (xs.extract start (start + 8))
  let lane (i : Nat) : C := sums.getD i zero
  let sum := ((lane 0 + lane 1) + (lane 2 + lane 3)) + ((lane 4 + lane 5) + (lane 6 + lane 7))
  sequentialSum xs (start + count / 8 * 8) (count % 8) sum

/-- The sum of `count` entries from `start` on, by halves until blocks are small enough. -/
def pairwiseSum (xs : Array C) (start count : Nat) : C :=
  if count < 8 then sequentialSum xs start count zero
  else if count ≤ 128 then blockSum xs start count
  else
    let half := count / 2 / 8 * 8
    pairwiseSum xs start half + pairwiseSum xs (start + half) (count - half)
termination_by count
decreasing_by all_goals omega

def totalSum (xs : Array C) : C := zero + pairwiseSum xs 0 xs.size

/-- Bring a number into the range from -1 to 1; what is no number stays. -/
def clip (x : C) : C :=
  if lt x (ofInt (-1)) then ofInt (-1) else if lt one x then one else x

def Embedding.dot (v w : Embedding C) : C := totalSum (v.zipWith (· * ·) w).components

def Embedding.alignment (v w : Embedding C) : C := clip (w.dot v)

end

namespace Embedding

section

variable {C : Type} [Rooted C]

def norm (v : Embedding C) : C := Rooted.sqrt (dot v v)

/-- The vector of length one in the same direction; the zero vector stays. -/
def normalize (v : Embedding C) : Embedding C :=
  let length := v.norm
  let divisor := if lt zero length then length else one
  v.map (· / divisor)

def cosine (v w : Embedding C) : C := alignment v.normalize w.normalize

def similarities (query : Embedding C) (rows : List (Embedding C)) : List C :=
  let direction := query.normalize
  rows.map fun row => alignment direction row.normalize

def similarityMatrix (rows : List (Embedding C)) : List (List C) :=
  let directions := rows.map normalize
  directions.map fun v => directions.map fun w => alignment v w

theorem similarities_eq (query : Embedding C) (rows : List (Embedding C)) :
    query.similarities rows = rows.map query.cosine := rfl

end

def isNear {C R : Type} [Component C R] (threshold : R) (v w : Embedding C) : Bool :=
  lt (Component.narrow threshold) (v.cosine w)

end Embedding

end PersonalFeed
