import PersonalFeed.Json.Basic
import PersonalFeed.Number.Scalar

/-!
Reading a value from its text. Blanks are the four of the format, control characters inside quotes
are refused, and the three names of numbers that are not finite are accepted. A whole number of
more than 4300 digits and a nesting beyond the reader's depth are failures of their own, apart
from a text that is no value.
-/

set_option autoImplicit false

namespace PersonalFeed.Json

inductive ReadError where
  /-- The text is not the written form of one value. -/
  | malformed
  /-- A whole number has too many digits. -/
  | oversized
  /-- Lists and records are nested too deep. -/
  | tooDeep
  deriving DecidableEq, Repr

def depthLimit : Nat := 990

def digitLimit : Nat := 4300

def isSpace (c : Char) : Bool := c == ' ' || c == '\t' || c == '\n' || c == '\r'

def skipSpace (text : List Char) : List Char := text.dropWhile isSpace

def hexValue? (c : Char) : Option Nat :=
  if c.isDigit then some (c.toNat - '0'.toNat)
  else if 'a' ≤ c ∧ c ≤ 'f' then some (c.toNat - 'a'.toNat + 10)
  else if 'A' ≤ c ∧ c ≤ 'F' then some (c.toNat - 'A'.toNat + 10)
  else none

def joinSurrogates : List Nat → List Nat
  | high :: low :: rest =>
    if 0xD800 ≤ high ∧ high < 0xDC00 ∧ 0xDC00 ≤ low ∧ low < 0xE000 then
      (0x10000 + (high - 0xD800) * 0x400 + (low - 0xDC00)) :: joinSurrogates rest
    else high :: joinSurrogates (low :: rest)
  | codes => codes

def textOfUnits (units : List Nat) : Text := ⟨(joinSurrogates units).map Code.ofNumber⟩

def shortEscape? : Char → Option Nat
  | '"' => some '"'.toNat
  | '\\' => some '\\'.toNat
  | '/' => some '/'.toNat
  | 'b' => some 8
  | 'f' => some 12
  | 'n' => some 10
  | 'r' => some 13
  | 't' => some 9
  | _ => none

def readCodes : List Char → Option (List Nat × List Char)
  | [] => none
  | '"' :: rest => some ([], rest)
  | '\\' :: 'u' :: a :: b :: c :: d :: rest => do
    -- One half of a pair is read by itself. The halves are joined when the text is made of its
    -- units.
    let unit := (← hexValue? a) * 0x1000 + (← hexValue? b) * 0x100 + (← hexValue? c) * 0x10
      + (← hexValue? d)
    let (codes, rest) ← readCodes rest
    return (unit :: codes, rest)
  | '\\' :: c :: rest => do
    let code ← shortEscape? c
    let (codes, rest) ← readCodes rest
    return (code :: codes, rest)
  | c :: rest =>
    if c.toNat < 32 then none
    else do
      let (codes, rest) ← readCodes rest
      return (c.toNat :: codes, rest)

def digitsValue (digits : List Char) : Nat :=
  digits.foldl (fun n c => n * 10 + (c.toNat - '0'.toNat)) 0

/-- The fractional digits after a point; without a digit the point does not belong to the number. -/
def readFraction : List Char → List Char × List Char
  | '.' :: rest =>
    let digits := rest.takeWhile Char.isDigit
    if digits.isEmpty then ([], '.' :: rest) else (digits, rest.dropWhile Char.isDigit)
  | text => ([], text)

/-- The power of ten after `e` or `E`; without a digit the letter does not belong to the number. -/
def readExponent (text : List Char) : Option Int × List Char :=
  match text with
  | e :: rest =>
    if e = 'e' ∨ e = 'E' then
      let (negative, unsigned) :=
        match rest with
        | '-' :: unsigned => (true, unsigned)
        | '+' :: unsigned => (false, unsigned)
        | _ => (false, rest)
      let digits := unsigned.takeWhile Char.isDigit
      if digits.isEmpty then (none, text)
      else
        let size : Int := digitsValue digits
        (some (if negative then -size else size), unsigned.dropWhile Char.isDigit)
    else (none, text)
  | [] => (none, [])

variable {R : Type} [Numeral R]

def readNumber (negative : Bool) (text : List Char) :
    Except ReadError (Json R × List Char) :=
  let whole :=
    match text with
    -- Behind a leading zero there are no more digits before the point.
    | '0' :: _ => ['0']
    | _ => text.takeWhile Char.isDigit
  if whole.isEmpty then .error .malformed
  else
    let (fraction, afterFraction) := readFraction (text.drop whole.length)
    let (exponent, rest) := readExponent afterFraction
    if fraction.isEmpty ∧ exponent.isNone then
      if digitLimit < whole.length then .error .oversized
      else
        let size : Int := digitsValue whole
        .ok (.int (if negative then -size else size), rest)
    else
      let digits := digitsValue (whole ++ fraction)
      .ok (.real (Numeral.ofDecimal negative digits (exponent.getD 0 - fraction.length)), rest)

mutual

/-- The value at the start of a text. `depth` bounds the nesting and `fuel` the steps. -/
def readValue : Nat → Nat → List Char → Except ReadError (Json R × List Char)
  | 0, _, _ => .error .malformed
  | fuel + 1, depth, text =>
    match text with
    | '"' :: rest =>
      match readCodes rest with
      | some (units, rest) => .ok (.string (textOfUnits units), rest)
      | none => .error .malformed
    | '[' :: rest =>
      if depth = 0 then .error .tooDeep
      else
        match skipSpace rest with
        | ']' :: rest => .ok (.array [], rest)
        | rest => do
          let (items, rest) ← readItems fuel (depth - 1) rest
          return (.array items, rest)
    | '\x7b' :: rest =>
      if depth = 0 then .error .tooDeep
      else
        match skipSpace rest with
        | '\x7d' :: rest => .ok (.object [], rest)
        | rest => do
          let (fields, rest) ← readFields fuel (depth - 1) rest
          -- Of fields with one name the last one counts.
          return (.object (merge fields), rest)
    | 'n' :: 'u' :: 'l' :: 'l' :: rest => .ok (.null, rest)
    | 't' :: 'r' :: 'u' :: 'e' :: rest => .ok (.bool true, rest)
    | 'f' :: 'a' :: 'l' :: 's' :: 'e' :: rest => .ok (.bool false, rest)
    | 'N' :: 'a' :: 'N' :: rest => .ok (.real Numeral.undefined, rest)
    | 'I' :: 'n' :: 'f' :: 'i' :: 'n' :: 'i' :: 't' :: 'y' :: rest =>
      .ok (.real Numeral.infinite, rest)
    | '-' :: 'I' :: 'n' :: 'f' :: 'i' :: 'n' :: 'i' :: 't' :: 'y' :: rest =>
      .ok (.real (-Numeral.infinite), rest)
    | '-' :: rest => readNumber true rest
    | _ => readNumber false text

def readItems : Nat → Nat → List Char → Except ReadError (List (Json R) × List Char)
  | 0, _, _ => .error .malformed
  | fuel + 1, depth, text => do
    let (item, rest) ← readValue fuel depth text
    match skipSpace rest with
    | ']' :: rest => return ([item], rest)
    | ',' :: rest =>
      let (items, rest) ← readItems fuel depth (skipSpace rest)
      return (item :: items, rest)
    | _ => .error .malformed

def readFields : Nat → Nat → List Char → Except ReadError (List (Text × Json R) × List Char)
  | 0, _, _ => .error .malformed
  | fuel + 1, depth, text =>
    match text with
    | '"' :: rest =>
      match readCodes rest with
      | none => .error .malformed
      | some (units, rest) =>
        let name := textOfUnits units
        match skipSpace rest with
        | ':' :: rest => do
          let (value, rest) ← readValue fuel depth (skipSpace rest)
          match skipSpace rest with
          | '\x7d' :: rest => return ([(name, value)], rest)
          | ',' :: rest =>
            let (fields, rest) ← readFields fuel depth (skipSpace rest)
            return ((name, value) :: fields, rest)
          | _ => .error .malformed
        | _ => .error .malformed
    | _ => .error .malformed

end

def parse (text : List Char) : Except ReadError (Json R) := do
  let (value, rest) ← readValue (2 * text.length + 2) depthLimit (skipSpace text)
  if (skipSpace rest).isEmpty then return value else .error .malformed

def parseString (text : String) : Except ReadError (Json R) := parse text.toList

end PersonalFeed.Json
