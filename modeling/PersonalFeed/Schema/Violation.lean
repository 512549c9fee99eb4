import PersonalFeed.Text.Basic

/-!
What is wrong with a record that does not fit its schema: a path into the record and the kind of
problem found there, each kind with its published code.
-/

set_option autoImplicit false

namespace PersonalFeed.Schema

inductive Step where
  | field (name : Text)
  | item (index : Nat)
  deriving DecidableEq, Repr

/-- The kinds of problems that a reader reports. -/
inductive Problem where
  | missing
  | notString
  /-- A text has no form in bytes where one is needed. -/
  | brokenText
  | stringTooShort
  | notInt
  | unreadableInt
  | oversizedInt
  | fractionalInt
  | notFinite
  | notFloat
  | unreadableFloat
  | notBool
  | unreadableBool
  | notList
  | tooShort
  | tooLong
  | notListed
  | notRecord
  | notBody
  | notTime
  | unreadableTime
  /-- A moment is beyond the calendar. -/
  | timeOutOfRange
  | unknownField
  deriving DecidableEq, Repr

def Problem.code : Problem → String
  | .missing => "missing"
  | .notString => "string_type"
  | .brokenText => "string_unicode"
  | .stringTooShort => "string_too_short"
  | .notInt => "int_type"
  | .unreadableInt => "int_parsing"
  | .oversizedInt => "int_parsing_size"
  | .fractionalInt => "int_from_float"
  | .notFinite => "finite_number"
  | .notFloat => "float_type"
  | .unreadableFloat => "float_parsing"
  | .notBool => "bool_type"
  | .unreadableBool => "bool_parsing"
  | .notList => "list_type"
  | .tooShort => "too_short"
  | .tooLong => "too_long"
  | .notListed => "literal_error"
  | .notRecord => "model_type"
  | .notBody => "model_attributes_type"
  | .notTime => "datetime_type"
  | .unreadableTime => "datetime_from_date_parsing"
  | .timeOutOfRange => "datetime_parsing"
  | .unknownField => "extra_forbidden"

/-- A problem and the place where it was found. -/
structure Violation where
  path : List Step
  problem : Problem
  deriving DecidableEq, Repr

def Violation.within (step : Step) (violation : Violation) : Violation :=
  { violation with path := step :: violation.path }

end PersonalFeed.Schema
