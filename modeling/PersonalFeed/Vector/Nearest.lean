import PersonalFeed.Vector.Similarity

/-!
The rows nearest a query, and the penalty for the number of earlier vectors that are near a
candidate.
-/

set_option autoImplicit false

namespace PersonalFeed

open Scalar

section

variable {C : Type}

/-- The order of a ranking by score: larger first, what is no number last. -/
def scoreOrder [Scalar C] (a b : C) : Bool :=
  if isNaN b then true else if isNaN a then false else le b a

variable [Rooted C]

/-- The row numbers and scores of the `count` most similar rows, equal scores in row order. -/
def Embedding.nearest (query : Embedding C) (rows : List (Embedding C)) (count : Int) :
    List (Nat × C) :=
  let scored := (query.similarities rows).zipIdx.map fun (score, index) => (index, score)
  (scored.mergeSort fun a b => scoreOrder a.2 b.2).take count.toNat

end

/-- The penalty for `count` near vectors: 1, 2/3, 1/2, … of the full score. -/
def matchPenalty {R : Type} [Scalar R] (count : Nat) : R := one / (one + ofInt count * ratio 1 2)

def Embedding.penalty {C R : Type} [Component C R] [Scalar R] (candidate : Embedding C)
    (preceding : List (Embedding C)) (threshold : R) : R :=
  matchPenalty (preceding.countP fun row => candidate.isNear threshold row)

end PersonalFeed
