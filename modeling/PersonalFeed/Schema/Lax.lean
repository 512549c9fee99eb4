import PersonalFeed.Number.Reading
import PersonalFeed.Number.Scalar
import PersonalFeed.Schema.Reader

/-!
Lax readers of numbers and truth values. A whole number may also be written as a fractional one
without a fraction, as a truth value, or as a text of digits; a fractional one as any number, a
truth value or a text; a truth value as one of a few words, or as one or zero.
-/

set_option autoImplicit false

namespace PersonalFeed.Schema

variable {α R : Type}

/-- Digits without the zeros and low lines that lead them; the last of these stays where nothing
but them, or nothing but a point, follows. A minus sign may stand behind the zeros. `previous` is
the place before the text. -/
def afterZeros? (previous : Char) : List Char → Option (List Char)
  | [] => some [previous]
  | c :: rest =>
    if c = '0' ∨ c = '_' then afterZeros? c rest
    else if c.isDigit ∨ c = '-' then some (c :: rest)
    else if c = '.' then some (previous :: c :: rest)
    else none

/-- Digits without those zeros; the text must start with a digit. -/
def dropLeadingZeros? (text : List Char) : Option (List Char) :=
  match text with
  | [] => none
  | c :: rest => if c = '0' then afterZeros? c rest else if c.isDigit then some text else none

def dropZeroFraction (text : List Char) : List Char :=
  match text.dropWhile (· ≠ '.') with
  | _ :: fraction =>
    if !fraction.isEmpty && fraction.all (· == '0') then text.takeWhile (· ≠ '.') else text
  | [] => text

/-- Whether each low line of a text stands alone between other characters; `after` tells whether
another character comes before the text. -/
def areLonely (after : Bool) : List Char → Bool
  | [] => after
  | '_' :: rest => after && areLonely false rest
  | _ :: rest => areLonely true rest

def dropLowLines? (text : List Char) : Option (List Char) :=
  if text.contains '_' && areLonely false text then some (text.filter (· ≠ '_')) else none

def intLength : Nat := 4300

def splitDigits (text : List Char) : Bool × List Char × List Char :=
  let negative := text.head? == some '-'
  let unsigned := if negative then text.drop 1 else text
  (negative, unsigned.takeWhile Char.isDigit, unsigned.dropWhile Char.isDigit)

/-- Whether digits are plain: only zero itself starts with a zero. -/
def arePlain (digits : List Char) : Bool :=
  digits = ['0'] || digits.head?.any fun c => c ≠ '0'

def isOversized (text : List Char) : Bool :=
  let (negative, digits, _) := splitDigits text
  arePlain digits && intLength < digits.length + negative.toNat

def plainInt? (text : List Char) : Option Int :=
  let (negative, digits, rest) := splitDigits text
  if arePlain digits && rest.isEmpty && !isOversized text then
    let size : Int := Number.ofDigits digits
    some (if negative then -size else size)
  else none

/-- The whole number that a text denotes once blanks, leading zeros, a fraction of zeros and low
lines are gone from it. -/
def tidiedInt? (text : List Char) : Option Int := do
  let (negative, unsigned) := Number.splitSign (Number.trim text)
  let digits := dropZeroFraction (← dropLeadingZeros? unsigned)
  let digits := (dropLowLines? digits).getD digits
  plainInt? (if negative then '-' :: digits else digits)

/-- The whole number that a text of digits denotes. Only the text as it is may be too long. -/
def intOfChars (text : List Char) : Checked Int :=
  match (plainInt? text).or (tidiedInt? text) with
  | some n => .valid n
  | none => .problem (if isOversized text then .oversizedInt else .unreadableInt)

def byChars (read : List Char → Checked α) (text : Text) : Checked α :=
  match text.chars? with
  | some chars => read chars
  | none => .problem .brokenText

variable [Numeral R]

def intOfReal (x : R) : Checked Int :=
  match Numeral.toInt? x with
  | some n => if Number.isInnerWord n then .valid n else .problem .oversizedInt
  | none => .problem (if Scalar.isFinite x then .fractionalInt else .notFinite)

def int : Reader R Int
  | .int n => .valid n
  | .bool b => .valid (if b then 1 else 0)
  | .real x => intOfReal x
  | .string s => byChars intOfChars s
  | _ => .problem .notInt

/-- The number that a text denotes. A text with low lines must have no blanks around it. -/
def realOfChars (text : List Char) : Checked R :=
  match Number.ofSigned? (Number.trim text) with
  | some x => .valid x
  | none =>
    match (dropLowLines? text).bind Number.ofSigned? with
    | some x => .valid x
    | none => .problem .unreadableFloat

/-- A number. A whole one must not be beyond the range of the fractional ones. -/
def real : Reader R R
  | .int n =>
    let x : R := Scalar.ofInt n
    if Scalar.isFinite x then .valid x else .problem .notFloat
  | .real x => .valid x
  | .bool b => .valid (if b then Scalar.one else Scalar.zero)
  | .string s => byChars realOfChars s
  | _ => .problem .notFloat

def boolOfChars (text : List Char) : Checked Bool :=
  let lowered := String.ofList (text.map Char.toLower)
  if ["1", "on", "t", "true", "y", "yes"].contains lowered then .valid true
  else if ["0", "off", "f", "false", "n", "no"].contains lowered then .valid false
  else .problem .unreadableBool

def boolOfInt (n : Int) : Checked Bool :=
  if n = 1 then .valid true else if n = 0 then .valid false else .problem .unreadableBool

def bool : Reader R Bool
  | .bool b => .valid b
  | .int n => if Number.isWord n then boolOfInt n else .problem .notBool
  | .real x =>
    match intOfReal x with
    | .valid n => boolOfInt n
    | .invalid _ => .problem .notBool
  | .string s => byChars boolOfChars s
  | _ => .problem .notBool

end PersonalFeed.Schema
