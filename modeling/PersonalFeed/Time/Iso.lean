import PersonalFeed.Text.Basic
import PersonalFeed.Time.Clock
import PersonalFeed.Time.Date
import PersonalFeed.Time.Timestamp

/-!
The written form of moments: date, clock and zone, with or without separators when read. A date may
also be a week and a day of it. Written moments name the zone as a distance.
-/

set_option autoImplicit false

namespace PersonalFeed.Timestamp

/-- How many characters belong to the date. What starts like a week and goes on with a hyphen and
two signs, the second of them a digit, is a week without a day. Digits after a week without hyphens
are its day and a clock without a sign between them, or only a clock if their number is odd. -/
def dateLength (text : List Char) : Nat :=
  let start := text.drop 4
  match start with
  | '-' :: 'W' :: _ =>
    match text.drop 8 with
    | '-' :: _ :: c :: _ => if c.isDigit then 8 else 10
    | '-' :: _ => 10
    | _ => 8
  | '-' :: _ => 10
  | 'W' :: _ =>
    if text.length = 7 then 7
    else
      let place := 7 + ((text.drop 7).takeWhile Char.isDigit).length
      if place < 9 then place else if place % 2 = 0 then 7 else 8
  | _ => if text.length = 7 then 7 else 8

def readWeek (year : Nat) (hyphens : Bool) (text : List Char) : Option Time.Date := do
  let (week, rest) ← digits? 2 text
  if rest.isEmpty then Time.dateOfWeek? year week 1
  else if hyphens ∧ firstOf rest ≠ '-' then none
  else
    let (day, _) ← digits? 1 (if hyphens then rest.drop 1 else rest)
    Time.dateOfWeek? year week day

def readDate (text : List Char) : Option Time.Date := do
  let (year, rest) ← digits? 4 text
  let hyphens := firstOf rest == '-'
  let rest := if hyphens then rest.drop 1 else rest
  if firstOf rest = 'W' then readWeek year hyphens (rest.drop 1)
  else
    let (month, rest) ← digits? 2 rest
    if hyphens ∧ firstOf rest ≠ '-' then none
    else
      let (day, _) ← digits? 2 (if hyphens then rest.drop 1 else rest)
      let date : Time.Date := ⟨year, month, day⟩
      if date.isValid then some date else none

/-- A clock reading since the start of year 1, and the distance of its zone if one is written. Any
character may stand between date and clock. -/
def parse? (text : List Char) : Option (Int × Option Int) := do
  let length := dateLength text
  let date ← readDate (text.take length)
  let start : Int := date.number * microsPerDay
  match text.drop length with
  | [] => some (start, none)
  | _ :: rest =>
    let (clock, zone) ← readTime rest
    some (start + clock, zone)

def mendSeparator (text : Text) : Text :=
  match [7, 8, 10].find? fun place => (text.codes[place]?.any fun code => code.char?.isNone) with
  | some place => ⟨text.codes.set place 'T'⟩
  | none => text

def parseText? (text : Text) : Option (Int × Option Int) :=
  if text.length < 7 then none else (mendSeparator text).chars?.bind parse?

/-- Read a moment; one without a zone is taken in universal time. -/
def parseUniversal? (text : Text) : Option Timestamp :=
  (parseText? text).map fun (clock, offset) => ofClock clock (offset.getD 0)

def padded (width n : Nat) : List Char :=
  let digits := Nat.toDigits 10 n
  List.replicate (width - digits.length) '0' ++ digits

/-- Date and clock of a reading since the start of year 1, with six digits of a second's fraction
unless it is zero. -/
def clockText (clock : Int) : List Char :=
  let date := Time.Date.ofNumber (clock / microsPerDay).toNat
  let rest := (clock % microsPerDay).toNat
  let (seconds, micros) := (rest / 1000000, rest % 1000000)
  padded 4 date.year ++ '-' :: padded 2 date.month ++ '-' :: padded 2 date.day ++
    'T' :: padded 2 (seconds / 3600) ++ ':' :: padded 2 (seconds / 60 % 60) ++
    ':' :: padded 2 (seconds % 60) ++ (if micros = 0 then [] else '.' :: padded 6 micros)

def zoneText (offset : Int) : List Char :=
  let size := offset.natAbs
  let (seconds, micros) := (size / 1000000, size % 1000000)
  (if offset < 0 then '-' else '+') :: padded 2 (seconds / 3600) ++
    ':' :: padded 2 (seconds / 60 % 60) ++
    (if seconds % 60 = 0 ∧ micros = 0 then [] else ':' :: padded 2 (seconds % 60)) ++
    (if micros = 0 then [] else '.' :: padded 6 micros)

def isoText (t : Timestamp) : String := String.ofList (clockText t.clock ++ zoneText t.offset)

end PersonalFeed.Timestamp
