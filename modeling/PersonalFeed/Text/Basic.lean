/-!
Texts. A text is a row of characters, some of which may be broken: written texts name a character
beyond 16 bits by two code units, and one of the two may come without the other. Such a half has a
place in the order of texts, but no form in bytes.
-/

set_option autoImplicit false

namespace PersonalFeed

inductive Code where
  | char (c : Char)
  /-- A code unit that is half of a character, counted from the first such unit. -/
  | half (index : Fin 2048)
  deriving DecidableEq, Repr

namespace Code

def firstHalf : Nat := 0xD800

def number : Code → Nat
  | char c => c.toNat
  | half index => firstHalf + index

def ofNumber (n : Nat) : Code :=
  if h : firstHalf ≤ n ∧ n < firstHalf + 2048 then half ⟨n - firstHalf, by omega⟩
  else char (Char.ofNat n)

def char? : Code → Option Char
  | char c => some c
  | half _ => none

instance : Coe Char Code := ⟨char⟩

instance : Inhabited Code := ⟨'\x00'⟩

theorem ofNumber_number (code : Code) : ofNumber code.number = code := by
  cases code with
  | char c =>
    have valid := c.valid
    rw [ofNumber, dif_neg]
    · simp [number]
    · simp only [number, firstHalf, Char.toNat, UInt32.isValidChar, Nat.isValidChar] at *
      omega
  | half index =>
    have inside := index.isLt
    rw [ofNumber, dif_pos] <;> simp [number, firstHalf]
    omega

end Code

/-- A row of characters and halves of characters. -/
structure Text where
  codes : List Code
  deriving DecidableEq, Repr, Inhabited

namespace Text

def ofChars (chars : List Char) : Text := ⟨chars.map .char⟩

def ofString (s : String) : Text := ofChars s.toList

instance : Coe String Text := ⟨ofString⟩

def chars? (text : Text) : Option (List Char) := text.codes.mapM Code.char?

def toString? (text : Text) : Option String := text.chars?.map String.ofList

def isWhole (text : Text) : Bool := text.codes.all fun code => code.char?.isSome

def empty : Text := ⟨[]⟩

def isEmpty (text : Text) : Bool := text.codes.isEmpty

def length (text : Text) : Nat := text.codes.length

instance : Append Text := ⟨fun a b => ⟨a.codes ++ b.codes⟩⟩

def intercalate (separator : Text) (texts : List Text) : Text :=
  ⟨separator.codes.intercalate (texts.map codes)⟩

/-- Texts are ordered by the numbers of their places, the first that differ deciding. -/
instance : LT Text := ⟨fun a b => a.codes.map Code.number < b.codes.map Code.number⟩

instance : LE Text := ⟨fun a b => ¬ b < a⟩

instance (a b : Text) : Decidable (a < b) :=
  inferInstanceAs (Decidable (a.codes.map Code.number < b.codes.map Code.number))

instance (a b : Text) : Decidable (a ≤ b) := inferInstanceAs (Decidable (¬ b < a))

def drop (text : Text) (count : Nat) : Text := ⟨text.codes.drop count⟩

def singletons (text : Text) : List Text := text.codes.map fun code => ⟨[code]⟩

def startsWith (text start : Text) : Bool := start.codes.isPrefixOf text.codes

theorem chars?_ofChars (chars : List Char) : (ofChars chars).chars? = some chars := by
  simp only [chars?, ofChars]
  induction chars with
  | nil => rfl
  | cons c rest ih => simp [List.mapM_cons, Code.char?, ih]

theorem toString?_ofString (s : String) : (ofString s).toString? = some s := by
  simp [toString?, ofString, chars?_ofChars]

theorem ofString_inj {s t : String} (same : ofString s = ofString t) : s = t :=
  Option.some.inj (by rw [← toString?_ofString s, same, toString?_ofString])

end Text

end PersonalFeed
