import PersonalFeed.Fault
import PersonalFeed.Json.Reader

/-!
Messages of the event stream: bytes that should hold the written form of a value. Bytes that are no
text and texts that are no value are dropped; numbers and nestings beyond the reader's limits are
breakdowns.
-/

set_option autoImplicit false

namespace PersonalFeed

variable {R : Type} [Numeral R]

/-- Why a readable text breaks a computation down; a malformed one does not. -/
def Json.ReadError.breakdown? : Json.ReadError → Option Breakdown
  | .malformed => none
  | .oversized => some .oversized
  | .tooDeep => some .tooDeep

def Json.parseLenient (text : String) : Except Breakdown (Option (Json R)) :=
  match Json.parseString text with
  | .ok value => .ok (some value)
  | .error flaw =>
    match flaw.breakdown? with
    | none => .ok none
    | some cause => .error cause

def decodeMessage (bytes : ByteArray) : Except Breakdown (Option (Json R)) :=
  match String.fromUTF8? bytes with
  | none => .ok none
  | some text => Json.parseLenient text

end PersonalFeed
