import PersonalFeed.Json.Numeric
import PersonalFeed.Weights.Basic

/-!
The fingerprint of a request's overrides, which keeps pages with different weights apart in the
cache: the given names in order, each with the shortest text of its number.
-/

set_option autoImplicit false

namespace PersonalFeed.Weights

variable {R : Type} [Numeral R]

def fingerprintOf (changes : List (Text × R)) : Text :=
  if changes.isEmpty then "default"
  else
    .intercalate "," ((changes.mergeSort fun a b => a.1 ≤ b.1).map fun (name, x) =>
      name ++ "=" ++ Numeral.text x)

/-- The fingerprint of overrides; in the order of names, the first value that is no number fails. -/
def fingerprint (overrides : List (Text × Json R)) : Except (Fault R) Text := do
  let sorted := (changes overrides).mergeSort fun a b => a.1 ≤ b.1
  let numbers ← sorted.mapM fun (name, value) =>
    match value.toReal with
    | .ok x => .ok (name, x)
    | .error cause => .error (Fault.broken cause)
  return fingerprintOf numbers

end PersonalFeed.Weights
