/-!
Bytes read as text, whatever they hold. A run of bytes that starts like a character and breaks off,
and every byte that starts none, is read as one replacement character.
-/

set_option autoImplicit false

namespace PersonalFeed.Utf8

/-- A character that has started: what its bytes amount to so far, how many are still to come, and
between which bounds the next one has to be. -/
structure Started where
  value : Nat
  owed : Nat
  low : Nat
  high : Nat
  deriving DecidableEq, Repr

inductive First where
  | whole (c : Char)
  | started (character : Started)
  | invalid
  deriving Repr

def first (byte : UInt8) : First :=
  let b := byte.toNat
  if b < 0x80 then .whole (Char.ofNat b)
  else if b < 0xC2 then .invalid
  else if b < 0xE0 then .started ⟨b - 0xC0, 1, 0x80, 0xBF⟩
  else if b < 0xF0 then
    .started ⟨b - 0xE0, 2, if b = 0xE0 then 0xA0 else 0x80, if b = 0xED then 0x9F else 0xBF⟩
  else if b < 0xF5 then
    .started ⟨b - 0xF0, 3, if b = 0xF0 then 0x90 else 0x80, if b = 0xF4 then 0x8F else 0xBF⟩
  else .invalid

def replacement : Char := '\ufffd'

/-- The text from a byte between characters on; `next` reads what follows it. -/
def startingAt (byte : UInt8) (next : Option Started → List Char) : List Char :=
  match first byte with
  | .whole c => c :: next none
  | .started character => next (some character)
  | .invalid => replacement :: next none

def readFrom : Option Started → List UInt8 → List Char
  | none, [] => []
  | some _, [] => [replacement]
  | none, byte :: rest => startingAt byte fun started => readFrom started rest
  | some character, byte :: rest =>
    let b := byte.toNat
    if character.low ≤ b ∧ b ≤ character.high then
      let value := character.value * 0x40 + b % 0x40
      match character.owed with
      | owed + 2 => readFrom (some ⟨value, owed + 1, 0x80, 0xBF⟩) rest
      | _ => Char.ofNat value :: readFrom none rest
    else replacement :: startingAt byte fun started => readFrom started rest

def read (bytes : List UInt8) : String := String.ofList (readFrom none bytes)

end PersonalFeed.Utf8
