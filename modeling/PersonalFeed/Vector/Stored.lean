import PersonalFeed.Json.Numeric
import PersonalFeed.Vector.Centroid
import PersonalFeed.Vector.Nearest

/-!
Vectors out of stored values: numbers are read first, then narrowed to components, and then the
shape is checked.
-/

set_option autoImplicit false

namespace PersonalFeed

variable {C R : Type} [Component C R] [Numeral R]

namespace Embedding

def componentsOf (value : Json R) : Except (Fault R) (Tensor C) :=
  (value.toTensor.map narrow).mapError Fault.broken

def ofStored (value : Json R) : Except (Fault R) (Embedding C) := do
  ofTensor (← componentsOf value)

def rowsOfStored (value : Json R) : Except (Fault R) (List (Embedding C)) := do
  rowsOfTensor (← componentsOf value)

end Embedding

/-- The most similar rows of a stored matrix. Without a positive count nothing is read at all. -/
def topRows (query rows : Json R) (count : Int) : Except (Fault R) (List (Nat × C)) :=
  if count ≤ 0 then .ok []
  else do
    let query : Embedding C ← Embedding.ofStored query
    let rows ← Embedding.rowsOfStored rows
    return query.nearest rows count

/-- The penalty of a stored candidate for the earlier vectors that are near it. Without any earlier
vector only the candidate is read. -/
def diversityPenalty (candidate : Json R) (preceding : List (Json R)) (threshold : R) :
    Except (Fault R) R := do
  let query : Embedding C ← Embedding.ofStored candidate
  if preceding.isEmpty then return Scalar.one
  else
    let rows ← Embedding.rowsOfStored (.array preceding)
    return query.penalty rows threshold

/-- The centroid of the rows of a stored matrix. Weights are read only for at least one row. -/
def centroidOfStored (rows : Json R) (weights : Option (Json R)) :
    Except (Fault R) (Embedding C) := do
  let rows : List (Embedding C) ← Embedding.rowsOfStored rows
  let refused := Except.mapError (ε := Refusal R) (α := Embedding C) Fault.refused
  match weights with
  | none => refused (Embedding.centroid rows none)
  | some weights =>
    if rows.isEmpty then .error (.refused .emptyCentroid)
    else
      let weights : Tensor C ← Embedding.componentsOf weights
      match weights.flatRow? with
      | some weights => refused (Embedding.centroid rows (some weights))
      | none => .error (.refused .centroidWeights)

end PersonalFeed
