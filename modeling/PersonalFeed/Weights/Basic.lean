import PersonalFeed.Fault
import PersonalFeed.Number.Scalar

/-!
Scoring weights: five numbers that are finite and not negative, with a positive sum. Weights come
from a configuration, from a stored profile, or from a request that overrides some of them.
-/

set_option autoImplicit false

namespace PersonalFeed

open Scalar

/-- How much each signal counts; the blend divides by the sum. -/
structure Weights (R : Type) where
  similarity : R
  temporal : R
  diversity : R
  engagement : R
  privacy : R

namespace Weights

variable {R : Type} [Scalar R]

def default : Weights R := ⟨ratio 3 10, ratio 1 5, ratio 1 5, ratio 1 5, ratio 1 10⟩

def get (w : Weights R) : Signal → R
  | .similarity => w.similarity
  | .temporal => w.temporal
  | .diversity => w.diversity
  | .engagement => w.engagement
  | .privacy => w.privacy

def total (w : Weights R) : R :=
  w.similarity + w.temporal + w.diversity + w.engagement + w.privacy

def toJson (w : Weights R) : Json R :=
  .object (Signal.all.map fun signal => (.ofString signal.name, .real (w.get signal)))

def checkReal (signal : Signal) (given : Json R) (x : R) : Except (WeightFlaw R) R :=
  if isFinite x && !isNegative x then .ok x else .error (.outOfRange signal given)

/-- A given value as a weight of a signal. Whole numbers beyond 64 bits are unusable. -/
def checkWeight (signal : Signal) (given : Json R) : Except (WeightFlaw R) R :=
  match given with
  | .int n => if Number.isWideWord n then checkReal signal given (ofInt n) else .error .unusable
  | .real x => checkReal signal given x
  | _ => .error (.notNumber signal given)

def check (given : Signal → Json R) : Except (WeightFlaw R) (Weights R) := do
  let similarity ← checkWeight .similarity (given .similarity)
  let temporal ← checkWeight .temporal (given .temporal)
  let diversity ← checkWeight .diversity (given .diversity)
  let engagement ← checkWeight .engagement (given .engagement)
  let privacy ← checkWeight .privacy (given .privacy)
  let weights : Weights R := ⟨similarity, temporal, diversity, engagement, privacy⟩
  if le weights.total zero then .error .nothingPositive else .ok weights

/-- The weights with some of them replaced. A name that is no signal is unusable, whatever else is
wrong. -/
def replace (w : Weights R) (changes : List (Text × Json R)) :
    Except (WeightFlaw R) (Weights R) :=
  if changes.any fun change => (Signal.ofName? change.1).isNone then .error .unusable
  else check fun signal => (Json.find? signal.name changes).getD (.real (w.get signal))

def changes (overrides : List (Text × Json R)) : List (Text × Json R) :=
  overrides.filter fun change =>
    match change.2 with
    | .null => false
    | _ => true

def withOverrides (w : Weights R) (overrides : List (Text × Json R)) :
    Except (Refusal R) (Weights R) :=
  let given := changes overrides
  if given.isEmpty then .ok w else (w.replace given).mapError .override

def flawFault : WeightFlaw R → Fault R
  | .unusable => .broken .wrongKind
  | flaw => .configuration (.weights flaw)

def ofPartial (w : Weights R) (given : List (Text × Json R)) : Except (Fault R) (Weights R) :=
  (w.replace given).mapError flawFault

end Weights

end PersonalFeed
