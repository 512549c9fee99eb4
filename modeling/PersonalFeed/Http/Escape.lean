import PersonalFeed.Json.Reader
import PersonalFeed.Text.Utf8

/-!
Characters of a target that are written by their bytes: a percent sign and two digits for each byte.
In a query a plus sign stands for a blank.
-/

set_option autoImplicit false

namespace PersonalFeed.Http

section

variable {α : Type} [DecidableEq α]

def splitAt (mark : α) : List α → List (List α)
  | [] => [[]]
  | c :: rest =>
    match splitAt mark rest with
    | [] => [[c]]
    | head :: tail => if c = mark then [] :: head :: tail else (c :: head) :: tail

def cut (mark : α) (row : List α) : List α × List α :=
  (row.takeWhile (· ≠ mark), (row.dropWhile (· ≠ mark)).drop 1)

end

/-- The bytes that a text with escapes stands for; a percent sign without two digits stays. -/
def unescapeBytes : List UInt8 → List UInt8
  | [] => []
  | [a] => [a]
  | [a, b] => [a, b]
  | mark :: a :: b :: rest =>
    match Json.hexValue? (Char.ofNat a.toNat), Json.hexValue? (Char.ofNat b.toNat) with
    | some high, some low =>
      if mark = 37 then UInt8.ofNat (high * 16 + low) :: unescapeBytes rest
      else mark :: unescapeBytes (a :: b :: rest)
    | _, _ => mark :: unescapeBytes (a :: b :: rest)

def unescape (text : List Char) : String :=
  Utf8.read (unescapeBytes (String.ofList text).toUTF8.data.toList)

/-- A part of a query: plus signs are blanks, then escapes are resolved. -/
def unescapePart (text : List Char) : String :=
  unescape (text.map fun c => if c = '+' then ' ' else c)

/-- The names and values of a query; a name without a value has the empty one. -/
def parseQuery (text : List Char) : List (String × String) :=
  ((splitAt '&' text).filter fun part => !part.isEmpty).map fun part =>
    let (name, value) := cut '=' part
    (unescapePart name, unescapePart value)

def queryEscapes : List Char := [' ', '"', '#', '<', '>']

def pathEscapes : List Char := queryEscapes ++ ['?', '\x60', '\x7b', '\x7d']

def escapedLength (escapes : List Char) (text : List Char) : Nat :=
  text.foldl (fun length c =>
    length + if c.toNat < 128 && !escapes.contains c then 1 else 3 * c.utf8Size) 0

def isParameterCharacter (c : Char) : Bool := c.isAlphanum || "_.-~".toList.contains c

def parameterLength (text : String) : Nat :=
  text.toList.foldl (fun length c =>
    length + if isParameterCharacter c || c == ' ' then 1 else 3 * c.utf8Size) 0

def parametersLength (pairs : List (String × String)) : Nat :=
  pairs.foldl (fun length (name, value) =>
    length + parameterLength name + parameterLength value + 2) 0 - 1

end PersonalFeed.Http
