import PersonalFeed.Json.Numeric
import PersonalFeed.Post

/-!
Recency: the score of a post decays with its age, and the score of a post that was shown recovers
with the days since. Both start at a floor that keeps them positive.
-/

set_option autoImplicit false

namespace PersonalFeed

open Scalar

section

variable {R : Type} [Exponential R]

def decay (age rate : R) : R :=
  larger (Exponential.exp (-rate * larger zero age)) Exponential.leastNormal

/-- The share of its score that a post keeps some days after it was shown: a tenth at first, twice
that after eighteen days and a twentieth more every day, never above one. -/
def recovery (days : R) : R :=
  let days := larger zero days
  let gained := days * ratio 1 20
  if le one gained then one
  else
    let base := ratio 1 10 * Exponential.exp2 (days / ofInt 18)
    smaller one (larger (ratio 1 10) (base + gained))

def seenMultiplier : Option R → R
  | none => one
  | some days => recovery days

end

variable {C R : Type} [Score R]

/-- A rate of decay out of a given value: a number above zero. -/
def rateOf (given : Json R) : Except (Fault R) R :=
  match given with
  | .int n =>
    if n ≤ 0 then .error (.refused (.decayRate given))
    else (Json.realOfInt n).mapError Fault.broken
  | .bool b => if b then .ok one else .error (.refused (.decayRate given))
  | .real x =>
    if le x zero || isNaN x then .error (.refused (.decayRate given)) else .ok x
  | .null | .string _ | .array _ | .object _ => .error (.broken .wrongKind)

/-- How recent a post is at a moment, by a given rate; posts from the future count as new. -/
def recency? (post : Post C) (now : Timestamp) (rate : Json R) : Except (Fault R) R :=
  (rateOf rate).map fun rate => decay (post.createdAt.hoursUntil now) rate

end PersonalFeed
