import PersonalFeed.Schema.Violation
import PersonalFeed.Settings.Limit
import PersonalFeed.Weights.Flaw

/-!
Everything that can go wrong, by cause. A refusal answers a bad request, an outage reports a store
that failed or did not answer in time, a configuration fault stops a deployment, and a breakdown is
a value that a computation cannot go on with.
-/

set_option autoImplicit false

namespace PersonalFeed

def vectorWidth : Nat := 1024

def impressionLimit : Nat := 500

inductive Refusal (R : Type) where
  | identityMissing
  | pageSizeKind (given : Json R)
  | pageSizeRange (largest given : Int)
  | idMissing (field : Text)
  | idMalformed (field : Text) (given : Json R)
  | decayRate (given : Json R)
  | emptyCentroid
  | centroidWeights
  | impressionCount
  | override (flaw : WeightFlaw R)

/-- Why a computation cannot go on. -/
inductive Breakdown where
  /-- Undefined scores have no best one. -/
  | unordered
  /-- Rows of different lengths, or inside too many others, form no matrix. -/
  | ragged
  /-- A text is not the number, the time or the id that is asked for. -/
  | unreadable
  /-- A text has no form in bytes. -/
  | unencodable
  /-- A whole number has too many digits. -/
  | oversized
  /-- A number or a date is beyond its range. -/
  | outOfRange
  | divisionByZero
  /-- A value is of a kind that the operation has no meaning for. -/
  | wrongKind
  /-- A value lacks the members that the operation reads. -/
  | noMember
  /-- A value is nested too deep. -/
  | tooDeep
  /-- A store is asked for directly and cannot be reached. -/
  | unreachable
  /-- A row would break a rule of its table. -/
  | conflicting
  deriving DecidableEq, Repr

inductive ConfigFault (R : Type) where
  | weights (flaw : WeightFlaw R)
  | limits (broken : List Limit)
  | settings (violations : List Schema.Violation)

inductive Fault (R : Type) where
  | refused (cause : Refusal R)
  /-- A vector of another shape than the expected one. -/
  | dimension (shape : List Nat)
  | outage (store reason : String)
  | configuration (cause : ConfigFault R)
  | schema (violations : List Schema.Violation)
  | broken (cause : Breakdown)

variable {R : Type} [Numeral R]

def Refusal.message? : Refusal R → Option Text
  | .identityMissing => some "identity_id is required"
  | .pageSizeKind given => some s!"page_size must be an integer, got {given.display}"
  | .pageSizeRange largest given =>
    some s!"page_size must be between 1 and {largest}, got {given}"
  | .idMissing field => some (field ++ " must be a non-empty string")
  | .idMalformed field given => some ("malformed " ++ field ++ " " ++ given.display)
  | .decayRate given => some s!"decay rate must be positive, got {given.display}"
  | .emptyCentroid => some "cannot compute the centroid of zero vectors"
  | .centroidWeights => some "centroid weights must be one positive weight per row"
  | .impressionCount => some s!"post_ids must hold between 1 and {impressionLimit} ids"
  | .override flaw => flaw.message?.map fun text => "invalid weight override: " ++ text

/-- The text of a configuration fault; settings that do not parse list their violations instead. -/
def ConfigFault.message? : ConfigFault R → Option String
  | .weights flaw => flaw.message?
  | .limits broken => some (String.intercalate "; " (broken.map Limit.message))
  | .settings _ => none

/-- A shape as a message shows it: a single length keeps a comma. -/
def shapeText : List Nat → String
  | [n] => s!"({n},)"
  | shape => Json.enclose "(" ")" (shape.map toString)

def Fault.message? : Fault R → Option Text
  | .refused cause => cause.message?
  | .dimension shape => some s!"expected {vectorWidth}-dimension vector, got {shapeText shape}"
  | .outage store reason => some s!"{store} unavailable: {reason}"
  | .configuration cause => cause.message?.map .ofString
  | .schema _ => none
  | .broken _ => none

end PersonalFeed
