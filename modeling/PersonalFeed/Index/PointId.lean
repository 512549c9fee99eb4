import PersonalFeed.PostId

/-!
The ids that the index takes: a number of 128 bits in one of four spellings. The number alone names
a point, so two spellings of it are one id.
-/

set_option autoImplicit false

namespace PersonalFeed.PointId

def isHexDigit (c : Char) : Bool :=
  c.isDigit || ('a' ≤ c && c ≤ 'f') || ('A' ≤ c && c ≤ 'F')

def isBare (text : List Char) : Bool := text.length = 32 && text.all isHexDigit

def hyphenPlaces : List Nat := [8, 13, 18, 23]

def isGrouped (text : List Char) : Bool :=
  text.length = 36 && text.zipIdx.all fun (c, place) =>
    if hyphenPlaces.contains place then c == '-' else isHexDigit c

def isBraced (text : List Char) : Bool :=
  text.head? = some '\x7b' && text.getLast? = some '\x7d' && isGrouped (text.drop 1).dropLast

def label : List Char := "urn:uuid:".toList

def isLabelled (text : List Char) : Bool :=
  label.isPrefixOf text && isGrouped (text.drop label.length)

def isSpelling (text : List Char) : Bool :=
  isBare text || isGrouped text || isBraced text || isLabelled text

def canonical? (id : Text) : Option Text :=
  (id.chars?.filter isSpelling).bind fun text => (PostId.readChars? text).map PostId.write

end PersonalFeed.PointId
