import PersonalFeed.Http.Target
import PersonalFeed.Json.Basic
import PersonalFeed.Json.Display
import PersonalFeed.Number.Scalar

/-!
Requests over HTTP: a method, a target, parameters and a body. Parameters that are given besides
the target replace its query, and everything that is sent needs a form in bytes. The texts of a
document have one, and its numbers are finite: a request with another number cannot be sent, and a
reply says `null` in its place.
-/

set_option autoImplicit false

namespace PersonalFeed.Http

section

variable {R : Type}

mutual

def everyPart (text : Text → Bool) (real : R → Bool) : Json R → Bool
  | .string s => text s
  | .real x => real x
  | .array items => everyItem text real items
  | .object fields => everyField text real fields
  | .null | .bool _ | .int _ => true

def everyItem (text : Text → Bool) (real : R → Bool) : List (Json R) → Bool
  | [] => true
  | item :: rest => everyPart text real item && everyItem text real rest

def everyField (text : Text → Bool) (real : R → Bool) : List (Text × Json R) → Bool
  | [] => true
  | (name, value) :: rest =>
    text name && everyPart text real value && everyField text real rest

end

def isFinite [Scalar R] (value : Json R) : Bool := everyPart (fun _ => true) Scalar.isFinite value

def isWhole (value : Json R) : Bool := everyPart Text.isWhole (fun _ => true) value

mutual

/-- A value with `null` in place of the numbers that are not finite. -/
def settled [Scalar R] : Json R → Json R
  | .real x => if Scalar.isFinite x then .real x else .null
  | .array items => .array (settledItems items)
  | .object fields => .object (settledFields fields)
  | other => other

def settledItems [Scalar R] : List (Json R) → List (Json R)
  | [] => []
  | item :: rest => settled item :: settledItems rest

def settledFields [Scalar R] : List (Text × Json R) → List (Text × Json R)
  | [] => []
  | (name, value) :: rest => (name, settled value) :: settledFields rest

end

end

/-! ### Requests -/

inductive Body (R : Type) where
  | absent
  | document (value : Json R)
  /-- A text that is not marked as a document. -/
  | raw (text : Text)

structure Request (R : Type) where
  method : String
  path : String
  query : List (String × String)
  body : Body R

/-- A parameter out of a value: truth values are written in small letters, and nothing at all as an
empty text. -/
def parameterText {R : Type} [Numeral R] : Json R → Text
  | .string s => s
  | .bool true => "true"
  | .bool false => "false"
  | .null => ""
  | value => value.display

/-- The parameters in a record, if it is one. A list stands for one parameter after another. -/
def parametersOf {R : Type} [Numeral R] : Json R → Option (List (Text × Text))
  | .object fields => some (fields.flatMap fun (name, value) =>
    match value with
    | .array values => values.map fun value => (name, parameterText value)
    | value => [(name, parameterText value)])
  | _ => none

def Body.flaw? {R : Type} [Scalar R] : Body R → Option RequestFlaw
  | .absent => none
  | .document value =>
    if !isFinite value then some .notFinite
    else if !isWhole value then some .unencodable
    else none
  | .raw text => if text.isWhole then none else some .unencodable

def checkParameters (path : List Char) (pairs : List (Text × Text)) :
    Except RequestFlaw (List (String × String)) := do
  let pairs ← pairs.mapM fun (name, value) =>
    return (String.ofList (← encoded name.codes), String.ofList (← encoded value.codes))
  Target.checkLength [escapedLength pathEscapes path, parametersLength pairs]
  return pairs

/-- A request to a target, by a method in letters of any case. Flaws of the target come before
those of the parameters, and these before those of the body. -/
def Request.ofTarget {R : Type} [Scalar R] (method : String) (target : Text)
    (parameters : Option (List (Text × Text))) (body : Body R) :
    Except RequestFlaw (Request R) := do
  if !isTarget target then .error .target
  else
    let target := Target.ofCodes target.codes
    let (path, query) ← target.located
    -- Parameters that are given apart take the place of those in the target.
    let given ← parameters.mapM (checkParameters path)
    match body.flaw? with
    | some flaw => .error flaw
    | none =>
      if !target.isNamed then .error .unencodable
      else return ⟨method.toUpper, unescape path, given.getD (parseQuery query), body⟩

end PersonalFeed.Http
