import PersonalFeed.Text.Basic

/-!
Character classes as closed ranges of code points. The tables of this folder list the characters
beyond ASCII; each class states its ASCII part itself. The first of them are the blanks of every
script, which are removed around a text.
-/

set_option autoImplicit false

namespace PersonalFeed.Text

def inRanges (ranges : List (Nat × Nat)) (code : Code) : Bool :=
  ranges.any fun range => range.1 ≤ code.number && code.number ≤ range.2

def isBetween (first last : Char) (code : Code) : Bool :=
  first.toNat ≤ code.number && code.number ≤ last.toNat

def isAscii (code : Code) : Bool := code.number < 128

def isPlainLetter (code : Code) : Bool := isBetween 'a' 'z' code || isBetween 'A' 'Z' code

def dropEndWhile {α : Type} (p : α → Bool) (list : List α) : List α :=
  (list.reverse.dropWhile p).reverse

def trimWhile {α : Type} (p : α → Bool) (list : List α) : List α :=
  dropEndWhile p (list.dropWhile p)

/-! ### Blanks -/

def blankRanges : List (Nat × Nat) := [
  (0x85, 0x85), (0xA0, 0xA0), (0x1680, 0x1680), (0x2000, 0x200A), (0x2028, 0x2029),
  (0x202F, 0x202F), (0x205F, 0x205F), (0x3000, 0x3000)]

/-- A character that separates words; four separators of the ASCII control block are among them. -/
def isBlank (code : Code) : Bool :=
  if isAscii code then
    code == ' ' || isBetween '\t' '\r' code || isBetween '\x1c' '\x1f' code
  else inRanges blankRanges code

def strip (text : Text) : Text := ⟨trimWhile isBlank text.codes⟩

end PersonalFeed.Text
