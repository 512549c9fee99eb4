import PersonalFeed.Fault
import PersonalFeed.Number.Reading
import PersonalFeed.Vector.Tensor

/-!
Numbers out of stored values. Truth values count as one and zero, texts are read as numbers, and
nothing at all is no number inside a vector.
-/

set_option autoImplicit false

namespace PersonalFeed.Json

variable {R : Type}

def realOfInt [Scalar R] (n : Int) : Except Breakdown R :=
  let x : R := Scalar.ofInt n
  if Scalar.isFinite x then .ok x else .error .outOfRange

variable [Numeral R]

def number : Json R → Except Breakdown R
  | .int n => realOfInt n
  | .real x => .ok x
  | .bool b => .ok (if b then Scalar.one else Scalar.zero)
  | .null | .string _ | .array _ | .object _ => .error .wrongKind

/-- The number that a value stands for: texts are read. -/
def toReal : Json R → Except Breakdown R
  | .string text =>
    match Number.ofText? text with
    | some x => .ok x
    | none => .error .unreadable
  | value => number value

mutual

def nesting : Json R → Tensor (Json R)
  | .array items => .row (nestingRow items)
  | value => .scalar value

def nestingRow : List (Json R) → List (Tensor (Json R))
  | [] => []
  | item :: rest => nesting item :: nestingRow rest

end

/-- The component that a value stands for; nothing at all is an undefined one. -/
def toComponent : Json R → Except Breakdown R
  | .null => .ok Numeral.undefined
  | value => toReal value

def levelLimit : Nat := 64

/-- A stored value as a tensor of numbers. Its shape is found before any number is read. -/
def toTensor (value : Json R) : Except Breakdown (Tensor R) :=
  let nested := value.nesting
  if nested.shape?.any fun shape => shape.length ≤ levelLimit then nested.convert toComponent
  else .error .ragged

end PersonalFeed.Json
