import PersonalFeed.Fault

/-!
Stored values taken as lists and as collections. The members of a record are its names and those of
a text its characters; lists and records are no members themselves. Numbers and truth values that
are equal as numbers are one member. Members are in an order if they are all texts or all numbers.
-/

set_option autoImplicit false

namespace PersonalFeed.Json

variable {R : Type}

def isText : Json R → Bool
  | .string _ => true
  | _ => false

def isNumber : Json R → Bool
  | .int _ | .bool _ | .real _ => true
  | _ => false

def text? : Json R → Option Text
  | .string text => some text
  | _ => none

def member : Json R → Except Breakdown (Json R)
  | .array _ | .object _ => .error .wrongKind
  | value => .ok value

/-- The items of a value that is taken as a list. A text stands for its characters and a record for
its names; what counts as absent has no items. -/
def listed [Scalar R] (value : Json R) : Except Breakdown (List (Json R)) :=
  if value.isAbsent then .ok []
  else
    match value with
    | .array items => .ok items
    | .string text => .ok (text.singletons.map .string)
    | .object fields => .ok (fields.map fun field => .string field.1)
    | .null | .bool _ | .int _ | .real _ => .error .wrongKind

variable [Numeral R]

def isIntBelow (n : Int) (x : R) : Bool :=
  match Numeral.floor? x with
  | some whole => n < whole || (n == whole && (Numeral.toInt? x).isNone)
  | none => Scalar.isPositive x

def isRealBelow (x : R) (n : Int) : Bool :=
  match Numeral.floor? x with
  | some whole => whole < n
  | none => Scalar.isNegative x

/-- Whether a number is below another one. Truth values count as one and zero. -/
def isBelow : Json R → Json R → Bool
  | .real x, .real y => Scalar.lt x y
  | .real x, .int n => isRealBelow x n
  | .real x, .bool b => isRealBelow x b.toInt
  | .int n, .real x => isIntBelow n x
  | .bool b, .real x => isIntBelow b.toInt x
  | .int m, .int n => m < n
  | .int m, .bool b => m < b.toInt
  | .bool b, .int n => b.toInt < n
  | .bool a, .bool b => a.toInt < b.toInt
  | _, _ => false

def isUndefined : Json R → Bool
  | .real x => Scalar.isNaN x
  | _ => false

def isSameMember : Json R → Json R → Bool
  | .string a, .string b => a == b
  | .null, .null => true
  | a, b =>
    a.isNumber && b.isNumber && !a.isUndefined && !b.isUndefined && !a.isBelow b && !b.isBelow a

/-- The different members of a value that is taken as a collection, the first of equal ones. -/
def members : Json R → Except Breakdown (List (Json R))
  | .array items => (items.mapM member).map (List.eraseDupsBy isSameMember)
  | .object fields => .ok (fields.map fun field => .string field.1)
  | .string text => .ok (text.singletons.eraseDups.map .string)
  | .null | .bool _ | .int _ | .real _ => .error .wrongKind

/-- Whether one of two members may come before the other; what is no number comes last. -/
def mayComeFirst : Json R → Json R → Bool
  | .string a, .string b => a ≤ b
  | a, b => if b.isUndefined then true else if a.isUndefined then false else !b.isBelow a

def sortMembers? (values : List (Json R)) : Option (List (Json R)) :=
  if values.length ≤ 1 || values.all isText || values.all isNumber then
    some (values.mergeSort mayComeFirst)
  else none

end PersonalFeed.Json
