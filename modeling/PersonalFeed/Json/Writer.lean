import PersonalFeed.Json.Basic
import PersonalFeed.Number.Scalar
import PersonalFeed.Text.Quoted

/-!
The written form of a value, in ASCII: characters beyond it are escaped by their code units of 16
bits. Numbers that are not finite are written by name.
-/

set_option autoImplicit false

namespace PersonalFeed.Json

variable {R : Type} [Numeral R]

def unitEscape (unit : Nat) : List Char := '\\' :: 'u' :: Text.hexText 4 unit

/-- The escape of a code point: one unit of 16 bits, or two. -/
def codeEscape (n : Nat) : List Char :=
  if n < 0x10000 then unitEscape n
  else unitEscape (0xD800 + (n - 0x10000) / 0x400) ++ unitEscape (0xDC00 + (n - 0x10000) % 0x400)

def writeCode (code : Code) : List Char :=
  match code with
  | .char c =>
    if c = '"' ∨ c = '\\' then ['\\', c]
    else if c = '\n' then ['\\', 'n']
    else if c = '\r' then ['\\', 'r']
    else if c = '\t' then ['\\', 't']
    else if c.toNat = 8 then ['\\', 'b']
    else if c.toNat = 12 then ['\\', 'f']
    else if Text.isBetween ' ' '~' c then [c]
    else codeEscape c.toNat
  | .half _ => codeEscape code.number

def writeText (text : Text) : String :=
  String.ofList ('"' :: text.codes.flatMap writeCode ++ ['"'])

def writeReal (x : R) : String :=
  if Scalar.isNaN x then "NaN"
  else if Scalar.isFinite x then Numeral.text x
  else if Scalar.isNegative x then "-Infinity"
  else "Infinity"

mutual

def write : Json R → String
  | .null => "null"
  | .bool true => "true"
  | .bool false => "false"
  | .int n => toString n
  | .real x => writeReal x
  | .string s => writeText s
  | .array items => "[" ++ String.intercalate "," (writeItems items) ++ "]"
  | .object fields => "\x7b" ++ String.intercalate "," (writeFields fields) ++ "\x7d"

def writeItems : List (Json R) → List String
  | [] => []
  | item :: rest => write item :: writeItems rest

def writeFields : List (Text × Json R) → List String
  | [] => []
  | (name, value) :: rest => (writeText name ++ ":" ++ write value) :: writeFields rest

end

end PersonalFeed.Json
