import PersonalFeed.Number.Scalar
import PersonalFeed.Text.Basic

/-!
Values of the data format that messages, cache entries and stored columns are written in. A record
keeps its fields in the order of their first mention; a field mentioned again takes the later
value at the earlier place. Whole and fractional numbers are kept apart, because texts show the
difference.
-/

set_option autoImplicit false

namespace PersonalFeed

/-- A value with fractional numbers of type `R`. -/
inductive Json (R : Type) where
  | null
  | bool (value : Bool)
  | int (value : Int)
  | real (value : R)
  | string (text : Text)
  | array (items : List (Json R))
  | object (fields : List (Text × Json R))
  deriving Inhabited

namespace Json

variable {R : Type}

def put (name : Text) (value : Json R) : List (Text × Json R) → List (Text × Json R)
  | [] => [(name, value)]
  | (other, old) :: rest =>
    if other = name then (name, value) :: rest else (other, old) :: put name value rest

def merge (fields : List (Text × Json R)) : List (Text × Json R) :=
  fields.foldl (fun done field => put field.1 field.2 done) []

def find? (name : Text) (fields : List (Text × Json R)) : Option (Json R) :=
  (fields.find? (·.1 = name)).map (·.2)

/-- The field of a record; `none` also for what is no record. -/
def field? (name : Text) : Json R → Option (Json R)
  | .object fields => find? name fields
  | _ => none

/-- Whether a value counts as absent where one is looked for: nothing, `false`, zero, and what is
empty. -/
def isAbsent [Scalar R] : Json R → Bool
  | .null => true
  | .bool value => !value
  | .int n => n == 0
  | .real x => Scalar.eq x Scalar.zero
  | .string text => text.isEmpty
  | .array items => items.isEmpty
  | .object fields => fields.isEmpty

def ofOption {α : Type} (value : α → Json R) : Option α → Json R
  | none => .null
  | some x => value x

def ofTexts (texts : List Text) : Json R := .array (texts.map .string)

end Json

end PersonalFeed
