/-!
Clocks and zones in written moments. A clock has hours, minutes, seconds and a fraction, with or
without colons; fractions keep six digits. The reader is lenient about what stands before a zone:
one foreign sign of ASCII, or anything after six digits of a fraction. A zero character ends a text.
-/

set_option autoImplicit false

namespace PersonalFeed.Timestamp

def digitsValue (digits : List Char) : Nat :=
  digits.foldl (fun n c => n * 10 + (c.toNat - '0'.toNat)) 0

/-- The number at the start of a text with exactly `count` digits, and the text after it. -/
def digits? (count : Nat) (text : List Char) : Option (Nat × List Char) :=
  let head := text.take count
  if head.length = count ∧ head.all Char.isDigit then some (digitsValue head, text.drop count)
  else none

def firstOf (text : List Char) : Char := text.headD '\x00'

/-- The fields of a clock, which may be too large, and whether something stands after them. -/
structure ClockReading where
  hour : Nat
  minute : Nat
  second : Nat
  micros : Nat
  hasMore : Bool
  deriving DecidableEq, Repr

namespace ClockReading

def seconds (reading : ClockReading) : Nat :=
  reading.hour * 3600 + reading.minute * 60 + reading.second

def isValid (reading : ClockReading) : Bool :=
  reading.hour < 24 && reading.minute < 60 && reading.second < 60

def ofFields (fields : List Nat) (micros : Nat) (hasMore : Bool) : ClockReading :=
  ⟨fields.getD 0 0, fields.getD 1 0, fields.getD 2 0, micros, hasMore⟩

end ClockReading

/-- A fraction of a second: up to six digits up to the end of a text, and any more after six. -/
def readFraction (fields : List Nat) (after : Char) (text : List Char) : Option ClockReading := do
  let count := min 6 text.length
  let (shown, rest) ← digits? count text
  let left := rest.dropWhile Char.isDigit
  let next := if left.isEmpty then after else firstOf left
  return .ofFields fields (shown * Nat.pow 10 (6 - count)) (next ≠ '\x00')

/-- Read up to `count` more fields of two digits. `colons` tells whether colons stand between them,
once that is known, and `after` is the character behind the text. -/
def readFields (after : Char) (colons : Option Bool) (fields : List Nat) :
    Nat → List Char → Option ClockReading
  | 0, text => readFraction fields after text
  | count + 1, text => do
    let (value, rest) ← digits? 2 text
    let fields := fields ++ [value]
    match rest with
    | [] => return .ofFields fields 0 (after ≠ '\x00')
    | [c] => if c.toNat < 128 then return .ofFields fields 0 (c ≠ '\x00') else none
    | c :: more =>
      -- The first separator decides for those after it.
      let colons := colons.getD (c == ':')
      if colons ∧ c = ':' then readFields after (some colons) fields count more
      else if c = '.' ∨ c = ',' then readFraction fields after more
      else if colons then none
      else readFields after (some colons) fields count (c :: more)

/-- A clock of hours, minutes, seconds and a fraction; only the hours have to be there. -/
def readClock (after : Char) (text : List Char) : Option ClockReading :=
  readFields after none [] 3 text

def startsZone (c : Char) : Bool := c == '+' || c == '-' || c == 'Z'

/-- The distance of a zone, in microseconds. A distance without whole seconds is none at all, and
one of a day or more is refused. -/
def readZone (text : List Char) : Option Int := do
  match text with
  | [] => none
  | 'Z' :: rest => if firstOf rest = '\x00' then some 0 else none
  | sign :: rest =>
    let reading ← readClock '\x00' rest
    if reading.hasMore then none
    else if reading.seconds = 0 then some 0
    else
      let size := reading.seconds * 1000000 + reading.micros
      if size < 86400000000 then some (if sign = '-' then -(size : Int) else size) else none

def readTime (text : List Char) : Option (Int × Option Int) := do
  let zone := text.dropWhile fun c => !startsZone c
  let reading ← readClock (firstOf zone) (text.takeWhile fun c => !startsZone c)
  if !reading.isValid then none
  else
    let micros : Int := reading.seconds * 1000000 + reading.micros
    if zone.isEmpty then if reading.hasMore then none else some (micros, none)
    else return (micros, some (← readZone zone))

end PersonalFeed.Timestamp
