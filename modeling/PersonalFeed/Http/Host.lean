import PersonalFeed.Http.Escape
import PersonalFeed.Number.Reading
import PersonalFeed.Text.Alphanumeric
import PersonalFeed.Text.Lowercase

/-!
Hosts and ports. A host is a name, an address of four numbers, or an address of eight groups between
square brackets. What only looks like an address is refused.
-/

set_option autoImplicit false

namespace PersonalFeed.Http.Host

def isOctet (text : List Code) : Bool :=
  match text.mapM Code.char? with
  | none | some [] => false
  | some (c :: rest) =>
    (c :: rest).all Char.isDigit && rest.length ≤ 2 && (c != '0' || rest.isEmpty) &&
      Number.ofDigits (c :: rest) ≤ 255

def isShortAddress (text : List Code) : Bool :=
  let numbers := splitAt (.char '.') text
  numbers.length = 4 && numbers.all isOctet

/-- The states of a reading of four numbers that follow a state: an even one stands in front of a
number, an odd one in a number. Between two numbers stands any one sign. -/
def numberStates (code : Code) (state : Nat) : List Nat :=
  if state % 2 = 0 then if Text.isPlainDigit code then [state + 1] else []
  else
    (if Text.isPlainDigit code then [state] else []) ++ (if state < 7 then [state + 1] else [])

def looksNumeric (text : List Code) : Bool :=
  (text.foldl (fun states code => (states.flatMap (numberStates code)).eraseDups) [0]).contains 7

def isGroup (text : List Code) : Bool :=
  match text.mapM Code.char? with
  | some digits =>
    1 ≤ digits.length && digits.length ≤ 4 && digits.all fun c => (Json.hexValue? c).isSome
  | none => false

/-- The groups of an address between colons. An address of four numbers at the end counts as two
groups. -/
def groups? (text : List Code) : Option (List (List Code)) :=
  let parts := splitAt (.char ':') text
  match parts.getLast? with
  | some last =>
    if parts.length < 3 then none
    else if !last.contains (.char '.') then some parts
    else if isShortAddress last then some (parts.dropLast ++ [[.char '0'], [.char '0']])
    else none
  | none => none

/-- The groups on one side of a gap. The side may be empty. -/
def sideOfGap (groups : List (List Code)) : List (List Code) :=
  if groups = [[]] then [] else groups

/-- An address of eight groups. Two colons in succession may stand once for groups of zeros. -/
def isGrouped (text : List Code) : Bool :=
  match groups? text with
  | none => false
  | some groups =>
    -- The ends may be empty only next to the gap, so the gap shows inside.
    let inner := (groups.drop 1).dropLast
    match inner.countP List.isEmpty with
    | 0 => groups.length = 8 && groups.all isGroup
    | 1 =>
      let place := inner.findIdx List.isEmpty + 1
      let sides := sideOfGap (groups.take place) ++ sideOfGap (groups.drop (place + 1))
      sides.length ≤ 7 && sides.all isGroup
    | _ => false

def isLongAddress (text : List Code) : Bool :=
  let (address, zone) := cut (.char '%') text
  let isZone := !zone.isEmpty && !zone.contains (.char '%')
  isGrouped address && (!text.contains (.char '%') || isZone)

def isBracketed (host : List Code) : Bool :=
  host.head? = some (.char '[') && host.getLast? = some (.char ']')

/-- A part of a name that is not all in ASCII: letters and digits of any script, and single hyphens
inside. -/
def isLabel (label : List Code) : Bool :=
  !label.isEmpty && label.length ≤ 63 &&
    (label.all fun code => code == .char '-' || Text.isAlphanumeric code) &&
    label.head? != some (.char '-') && label.getLast? != some (.char '-') &&
    (label.drop 2).take 2 != [.char '-', .char '-']

/-- Whether a code separates two parts of a name; three scripts have points of their own. -/
def isPoint (code : Code) : Bool :=
  [0x2E, 0x3002, 0xFF0E, 0xFF61].contains code.number

/-- A name with characters beyond ASCII. It may end in a point. -/
def isForeignName (host : List Code) : Bool :=
  let lowered := (Text.mk host).lower.codes.map fun code => if isPoint code then .char '.' else code
  let labels := splitAt (.char '.') lowered
  let labels := if labels.getLast? = some [] then labels.dropLast else labels
  !labels.isEmpty && labels.all isLabel

def isValid (host : List Code) : Bool :=
  if looksNumeric host then isShortAddress host
  else if isBracketed host then isLongAddress (host.drop 1).dropLast
  else host.all Text.isAscii || isForeignName host

def portDigits : Nat := 4300

def isPort (text : List Code) : Bool :=
  match (text.map Number.plainDigit).mapM Code.char? with
  | none => false
  | some chars =>
    match Number.joinGroups? Char.isDigit false (Number.splitSign (Number.trim chars)).2 with
    | some digits => !digits.isEmpty && digits.length ≤ portDigits && digits.all Char.isDigit
    | none => false

end PersonalFeed.Http.Host
