import PersonalFeed.Number.Reading
import PersonalFeed.Number.Scalar
import PersonalFeed.Schema.Reader
import PersonalFeed.Time.Iso

/-!
The moments of feed items: the reading of a clock whose zone may be unknown. A moment is written
with its zone in hours and minutes, `Z` standing for universal time. It is read from a date and a
clock, from a date alone, or from a count of seconds since the start of 1970, which may have a
fraction; a large count is one of milliseconds.
-/

set_option autoImplicit false

namespace PersonalFeed

structure ItemMoment where
  /-- Microseconds since the start of year 1. -/
  clock : Int
  /-- Seconds by which the zone is ahead of universal time, if the zone is known. -/
  zone : Option Int
  deriving DecidableEq, Repr

namespace ItemMoment

def nearestSeconds (micros : Int) : Int :=
  let size : Int := (micros.natAbs + 500000) / 1000000
  if micros < 0 then -size else size

def ofTimestamp (t : Timestamp) : ItemMoment := ⟨t.clock, some (nearestSeconds t.offset)⟩

/-- The zone of a moment: nothing if it is unknown, whole minutes if it is not universal time. -/
def zoneText : Option Int → List Char
  | none => []
  | some offset =>
    if offset = 0 then ['Z']
    else
      let minutes := offset.natAbs / 60
      (if offset < 0 then '-' else '+') :: Timestamp.padded 2 (minutes / 60) ++
        ':' :: Timestamp.padded 2 (minutes % 60)

def text (moment : ItemMoment) : String :=
  String.ofList (Timestamp.clockText moment.clock ++ zoneText moment.zone)

open Timestamp (digits? digitsValue microsPerDay)

def readDate (text : List Char) : Option (Time.Date × List Char) := do
  let (year, rest) ← digits? 4 text
  let (month, rest) ← if rest.head? = some '-' then digits? 2 (rest.drop 1) else none
  let (day, rest) ← if rest.head? = some '-' then digits? 2 (rest.drop 1) else none
  if 1 ≤ month ∧ month ≤ 12 ∧ 1 ≤ day ∧ day ≤ Time.Date.daysInMonth year month then
    some (⟨year, month, day⟩, rest)
  else none

/-- Microseconds after a decimal mark, of which there has to be a digit; digits after the sixth are
dropped. -/
def readFraction (text : List Char) : Option (Nat × List Char) :=
  match text with
  | mark :: rest =>
    if mark = '.' ∨ mark = ',' then
      let shown := rest.takeWhile Char.isDigit
      let six := (shown ++ List.replicate 6 '0').take 6
      if shown.isEmpty then none else some (digitsValue six, rest.dropWhile Char.isDigit)
    else some (0, text)
  | [] => some (0, [])

def readClock (text : List Char) : Option (Nat × List Char) := do
  let (hour, rest) ← digits? 2 text
  let (minute, rest) ← if rest.head? = some ':' then digits? 2 (rest.drop 1) else none
  let hasSeconds := rest.head? = some ':'
  let (second, rest) ← if hasSeconds then digits? 2 (rest.drop 1) else some (0, rest)
  let (micros, rest) ← if hasSeconds then readFraction rest else some (0, rest)
  if hour < 24 ∧ minute < 60 ∧ second < 60 then
    some (((hour * 60 + minute) * 60 + second) * 1000000 + micros, rest)
  else none

/-- The zone at the end of a text, in seconds: nothing, `Z`, or a sign, hours and minutes. The sign
may also be the one of arithmetic. -/
def readZone : List Char → Option (Option Int)
  | [] => some none
  | ['Z'] => some (some 0)
  | ['z'] => some (some 0)
  | sign :: rest => do
    if sign ≠ '+' ∧ sign ≠ '-' ∧ sign ≠ '−' then none
    else
      let (hours, rest) ← digits? 2 rest
      -- The colon between hours and minutes may be left out.
      let (minutes, rest) ← digits? 2 (if rest.head? = some ':' then rest.drop 1 else rest)
      if rest.isEmpty ∧ minutes < 60 ∧ hours < 24 then
        let size : Int := hours * 3600 + minutes * 60
        some (some (if sign = '+' then size else -size))
      else none

/-- The reading of a date and a clock, in microseconds since the start of year 1; negative in the
year before. -/
def clockOf (date : Time.Date) (micros : Nat) : Int :=
  let day : Int :=
    if date.year = 0 then (Time.Date.daysBeforeMonth 0 date.month + date.day : Int) - 367
    else date.number
  day * microsPerDay + micros

def readFull (text : List Char) : Option ItemMoment := do
  let (date, rest) ← readDate text
  match rest with
  | sign :: rest =>
    if ['T', 't', ' ', '_'].contains sign then
      let (micros, rest) ← readClock rest
      return ⟨clockOf date micros, ← readZone rest⟩
    else none
  | [] => none

def largestSeconds : Nat := 20000000000

/-- A count of seconds since the start of 1970, and microseconds besides. Moments before year 0 and
after 9999 have none. -/
def ofSeconds? (count : Int) (micros : Nat) : Option ItemMoment :=
  let seconds := count + micros / 1000000
  if -62167219200 ≤ seconds ∧ seconds ≤ 253402300799 then
    let reading := Timestamp.epochDay * microsPerDay + seconds * 1000000
    some ⟨reading + micros % 1000000, some 0⟩
  else none

def ofCount? (count : Int) : Option ItemMoment :=
  if count.natAbs ≤ largestSeconds then ofSeconds? count 0
  else ofSeconds? (count / 1000) (count % 1000 * 1000).toNat

def readDay (text : List Char) : Option ItemMoment := do
  let (date, rest) ← readDate text
  if rest.isEmpty then return ⟨clockOf date 0, none⟩ else none

open Schema Scalar

variable {R : Type} [Numeral R]

def nearestWhole (x : R) : Nat :=
  match Numeral.floor? x with
  | none => 0
  | some whole => if le (ratio 1 2) (x - ofInt whole) then whole.toNat + 1 else whole.toNat

/-- A fractional count of seconds or milliseconds: the seconds that are over, and the microseconds
nearest to the rest. -/
def ofReal? (count : R) : Option ItemMoment :=
  let limit : R := ofInt largestSeconds
  let isLarge := lt limit count || lt count (-limit)
  let seconds : R := if isLarge then count / ofInt 1000 else count
  (Numeral.floor? seconds).bind fun whole =>
    ofSeconds? whole (nearestWhole ((seconds - ofInt whole) * ofInt 1000000))

omit [Numeral R] in
def signed? (negative : Bool) (digits : List Char) : Option Int :=
  let size : Int := digitsValue digits
  if Number.isWord size then some (if negative then -size else size) else none

/-- A written count: digits, or a decimal with a point, which may name a power of ten. -/
def readCount (R : Type) [Numeral R] (text : List Char) : Option ItemMoment := do
  let (negative, unsigned) := Number.splitSign text
  let digits := unsigned.takeWhile Char.isDigit
  let count ← signed? negative digits
  match unsigned.drop digits.length with
  | [] => if digits.isEmpty then none else ofCount? count
  | mark :: _ =>
    if mark = '.' then ofReal? (← Number.ofUnsigned? (R := R) negative unsigned) else none

def ofChars (R : Type) [Numeral R] (text : List Char) : Checked ItemMoment :=
  match (readFull text).orElse fun _ => (readCount R text).orElse fun _ => readDay text with
  | some moment => if moment.clock < 0 then .problem .timeOutOfRange else .valid moment
  | none => .problem .unreadableTime

omit [Numeral R] in
def checked (moment : Option ItemMoment) : Checked ItemMoment :=
  match moment with
  | some moment => if moment.clock < 0 then .problem .timeOutOfRange else .valid moment
  | none => .problem .timeOutOfRange

def read : Reader R ItemMoment
  | .string s =>
    match s.chars? with
    | some chars => ofChars R chars
    | none => .problem .brokenText
  | .int n =>
    if Number.isWord n then checked (ofCount? n)
    else if isFinite (ofInt n : R) then .problem .timeOutOfRange
    else .problem .notTime
  | .real x => checked (ofReal? x)
  | _ => .problem .notTime

end ItemMoment

end PersonalFeed
