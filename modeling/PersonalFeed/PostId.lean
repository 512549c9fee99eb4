import PersonalFeed.Fault
import PersonalFeed.Number.Reading
import PersonalFeed.Text.Lowercase

/-!
Post ids: numbers of 128 bits, written as 32 hexadecimal digits in groups of 8, 4, 4, 4 and 12. A
lenient reader takes many spellings of such a number; an id is accepted when its lower-case form is
the one way of writing the number that was read.
-/

set_option autoImplicit false

namespace PersonalFeed.PostId

/-- The text without every occurrence of a part, found from the left. `fuel` bounds the steps. -/
def removeAll (part : List Char) : Nat → List Char → List Char
  | 0, text => text
  | _, [] => []
  | fuel + 1, c :: rest =>
    if part.isPrefixOf (c :: rest) then removeAll part fuel ((c :: rest).drop part.length)
    else c :: removeAll part fuel rest

def isBrace (c : Char) : Bool := c == '\x7b' || c == '\x7d'

/-- The digits that a spelling leaves over: without labels, without braces around and without
hyphens. -/
def digitsOf (text : List Char) : List Char :=
  let bare := removeAll "uuid:".toList text.length (removeAll "urn:".toList text.length text)
  (Text.trimWhile isBrace bare).filter (· ≠ '-')

/-- The value of a hexadecimal digit; decimal digits of every script count. -/
def hexValue? (c : Char) : Option Nat :=
  match Text.decimalValue? c with
  | some value => some value
  | none =>
    if 'a' ≤ c ∧ c ≤ 'f' then some (c.toNat - 'a'.toNat + 10)
    else if 'A' ≤ c ∧ c ≤ 'F' then some (c.toNat - 'A'.toNat + 10)
    else none

def hexNumber? (afterDigit : Bool) (value : Nat) : List Char → Option Nat
  | [] => if afterDigit then some value else none
  | '_' :: rest => if afterDigit then hexNumber? false value rest else none
  | c :: rest =>
    match hexValue? c with
    | some digit => hexNumber? true (value * 16 + digit) rest
    | none => none

/-- The text behind a mark of the base, a zero of any script and an `x`, and one low line. -/
def dropMark : List Char → List Char
  | zero :: x :: rest =>
    if Text.decimalValue? zero = some 0 ∧ (x = 'x' ∨ x = 'X') then
      match rest with
      | '_' :: digits => digits
      | digits => digits
    else zero :: x :: rest
  | text => text

def number? (text : List Char) : Option Int :=
  let (negative, rest) := Number.splitSign (Number.trim text)
  (hexNumber? false 0 (dropMark rest)).map fun n => if negative then -(n : Int) else n

def readChars? (text : List Char) : Option Nat :=
  let digits := digitsOf text
  if digits.length = 32 then
    match number? digits with
    | some n => if 0 ≤ n ∧ n < Nat.pow 2 128 then some n.toNat else none
    | none => none
  else none

def read? (text : Text) : Option Nat := text.chars?.bind readChars?

/-- `count` hexadecimal digits of a number, without its lowest `skipped` ones. -/
def hexDigits (skipped count n : Nat) : List Char :=
  (List.range count).reverse.map fun i => (n / Nat.pow 16 (skipped + i) % 16).digitChar

def write (n : Nat) : Text :=
  .ofChars (hexDigits 24 8 n ++ '-' :: hexDigits 20 4 n ++ '-' :: hexDigits 16 4 n ++
    '-' :: hexDigits 12 4 n ++ '-' :: hexDigits 0 12 n)

def canonical? (text : Text) : Option Text := (read? text).map write

variable {R : Type}

/-- The id that a value denotes, in lower case. `field` names the value in a refusal. -/
def check (field : Text) (given : Json R) : Except (Refusal R) Text :=
  match given with
  | .string text =>
    if text.isEmpty then .error (.idMissing field)
    else if canonical? text = some text.lower then .ok text.lower
    else .error (.idMalformed field given)
  | _ => .error (.idMissing field)

/-- A cursor is the id of the last post of the page before; none starts at the top. -/
def checkCursor (given : Json R) : Except (Refusal R) (Option Text) :=
  match given with
  | .null => .ok none
  | _ => (check "cursor" given).map some

end PersonalFeed.PostId
