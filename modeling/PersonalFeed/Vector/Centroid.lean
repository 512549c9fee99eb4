import PersonalFeed.Vector.Similarity

/-!
The centroid of embeddings: their mean, or their mean by weights that add up to a positive number.
Sums run over the rows in their order.
-/

set_option autoImplicit false

namespace PersonalFeed

open Scalar

variable {C R : Type} [Scalar C]

namespace Embedding

def sum (rows : List (Embedding C)) : Embedding C :=
  rows.foldl (fun total row => total.zipWith (· + ·) row) (replicate zero)

def mean (rows : List (Embedding C)) : Embedding C :=
  let count : C := ofInt rows.length
  (sum rows).map (· / count)

def weightedMean (rows : List (Embedding C)) (weights : List C) : Embedding C :=
  let total := totalSum weights.toArray
  let scaled := List.zipWith (fun (row : Embedding C) weight => row.map (· * weight)) rows weights
  (sum scaled).map (· / total)

/-- The centroid of at least one row; weights are one a row, with a sum that is not zero or less. -/
def centroid (rows : List (Embedding C)) (weights : Option (List C)) :
    Except (Refusal R) (Embedding C) :=
  if rows.isEmpty then .error .emptyCentroid
  else
    match weights with
    | none => .ok (mean rows)
    | some weights =>
      if weights.length ≠ rows.length ∨ le (totalSum weights.toArray) zero then
        .error .centroidWeights
      else .ok (weightedMean rows weights)

end Embedding

def centroidOf (rows : Tensor C) : Except (Fault R) (Embedding C) := do
  let rows ← Embedding.rowsOfTensor rows
  (Embedding.centroid rows none).mapError Fault.refused

end PersonalFeed
