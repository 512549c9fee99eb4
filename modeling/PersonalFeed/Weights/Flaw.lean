import PersonalFeed.Json.Display

/-!
Why a set of scoring weights is refused.
-/

set_option autoImplicit false

namespace PersonalFeed

/-- The five signals that are blended, in the order their weights are checked. -/
inductive Signal where
  | similarity
  | temporal
  | diversity
  | engagement
  | privacy
  deriving DecidableEq, Repr

namespace Signal

def all : List Signal := [similarity, temporal, diversity, engagement, privacy]

def name : Signal → String
  | similarity => "similarity"
  | temporal => "temporal"
  | diversity => "diversity"
  | engagement => "engagement"
  | privacy => "privacy"

def ofName? (name : Text) : Option Signal := all.find? (·.name = name)

def sortedNames : List Text := ["diversity", "engagement", "privacy", "similarity", "temporal"]

theorem ofName?_name (signal : Signal) : ofName? signal.name = some signal := by
  cases signal <;> decide

theorem name_of_ofName? {name : Text} {signal : Signal} (found : ofName? name = some signal) :
    signal.name = name := by
  simpa using List.find?_some found

end Signal

inductive WeightFlaw (R : Type) where
  /-- A weight is not a number. -/
  | notNumber (signal : Signal) (given : Json R)
  /-- A weight is negative or not finite. -/
  | outOfRange (signal : Signal) (given : Json R)
  /-- No weight is positive. -/
  | nothingPositive
  /-- The names are not exactly the five signals. -/
  | names (missing : List Text) (unknown : List (Json R))
  /-- A name or a number that no weight can take. -/
  | unusable

namespace WeightFlaw

variable {R : Type} [Numeral R]

/-- The text of a flaw; an unusable weight has none of its own. -/
def message? : WeightFlaw R → Option String
  | .notNumber signal given =>
    some s!"weight '{signal.name}' must be a number, got {given.display}"
  | .outOfRange signal given =>
    some s!"weight '{signal.name}' must be finite and >= 0, got {given.display}"
  | .nothingPositive => some "at least one scoring weight must be positive"
  | .names missing unknown =>
    some (s!"weights need exactly {Json.displayTexts Signal.sortedNames} " ++
      s!"(missing={Json.displayTexts missing}, unknown={(Json.array unknown).display})")
  | .unusable => none

end WeightFlaw

end PersonalFeed
