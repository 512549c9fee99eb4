import PersonalFeed.Number.Scalar
import PersonalFeed.Text.Digit
import PersonalFeed.Text.Ranges

/-!
Numbers from free text: blanks around are dropped, single low lines may separate digits, and the
names of numbers that are not finite are taken in any case.
-/

set_option autoImplicit false

namespace PersonalFeed.Number

/-- The text without the low lines between two digits; any other low line makes it unreadable. -/
def joinGroups? (isDigit : Char → Bool) : Bool → List Char → Option (List Char)
  | _, [] => some []
  | afterDigit, '_' :: rest =>
    match rest with
    | c :: _ => if afterDigit && isDigit c then joinGroups? isDigit false rest else none
    | [] => none
  | _, c :: rest => (joinGroups? isDigit (isDigit c) rest).map (c :: ·)

/-- A blank that may surround a number: any but the four separators of the control block. -/
def isMargin (c : Char) : Bool := Text.isBlank c && !Text.isBetween '\x1c' '\x1f' c

def trim (text : List Char) : List Char := Text.trimWhile isMargin text

def splitSign : List Char → Bool × List Char
  | '-' :: rest => (true, rest)
  | '+' :: rest => (false, rest)
  | text => (false, text)

def ofDigits (digits : List Char) : Nat :=
  digits.foldl (fun n c => n * 10 + (c.toNat - '0'.toNat)) 0

variable {R : Type} [Numeral R]

def ofUnsigned? (negative : Bool) (text : List Char) : Option R :=
  let whole := text.takeWhile Char.isDigit
  let rest := text.drop whole.length
  let (fraction, rest) :=
    match rest with
    | '.' :: rest => (rest.takeWhile Char.isDigit, rest.dropWhile Char.isDigit)
    | _ => ([], rest)
  if whole.isEmpty ∧ fraction.isEmpty then none
  else
    let digits := ofDigits (whole ++ fraction)
    match rest with
    | [] => some (Numeral.ofDecimal negative digits (-(fraction.length : Int)))
    | e :: rest =>
      let (down, power) := splitSign rest
      if (e = 'e' ∨ e = 'E') ∧ !power.isEmpty ∧ power.all Char.isDigit then
        let size : Int := ofDigits power
        some (Numeral.ofDecimal negative digits ((if down then -size else size) - fraction.length))
      else none

def ofMagnitude? (negative : Bool) (text : List Char) : Option R :=
  let name := String.ofList (text.map Char.toLower)
  if name = "inf" ∨ name = "infinity" then
    some (if negative then -Numeral.infinite else Numeral.infinite)
  else if name = "nan" then some Numeral.undefined
  else ofUnsigned? negative text

def ofSigned? (text : List Char) : Option R :=
  let (negative, magnitude) := splitSign text
  ofMagnitude? negative magnitude

/-- A digit of any positional system as its ASCII digit; other characters stay. -/
def plainDigit (code : Code) : Code :=
  match Text.decimalValue? code with
  | some value => .ofNumber ('0'.toNat + value)
  | none => code

def ofText? (text : Text) : Option R := do
  let chars ← (Text.mk (text.codes.map plainDigit)).chars?
  ofSigned? (← joinGroups? Char.isDigit false (trim chars))

end PersonalFeed.Number
