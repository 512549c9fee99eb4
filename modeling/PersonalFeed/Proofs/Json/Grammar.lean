import PersonalFeed.Json.Reader
import PersonalFeed.Proofs.Results

/-!
How values are spelled. A grammar says which texts stand for which values, and whatever the reader
reads out of a text is what the text spells.
-/

set_option autoImplicit false

namespace PersonalFeed.Json

/-- Blanks down to the rest of a text. -/
inductive Blanks : List Char → List Char → Prop
  | none (rest : List Char) : Blanks rest rest
  | more {c : Char} {text rest : List Char} (blank : isSpace c = true) (later : Blanks text rest) :
    Blanks (c :: text) rest

/-- A quoted text from behind its opening quote to behind the closing one. -/
inductive Quoted : List Char → List Nat → List Char → Prop
  | close (rest : List Char) : Quoted ('"' :: rest) [] rest
  | unit {a b c d : Char} {high second third low : Nat} {text rest : List Char} {units : List Nat}
    (first : hexValue? a = some high) (next : hexValue? b = some second)
    (after : hexValue? c = some third) (last : hexValue? d = some low)
    (later : Quoted text units rest) :
    Quoted ('\\' :: 'u' :: a :: b :: c :: d :: text)
      ((high * 0x1000 + second * 0x100 + third * 0x10 + low) :: units) rest
  | short {c : Char} {code : Nat} {text rest : List Char} {units : List Nat}
    (escape : shortEscape? c = some code) (later : Quoted text units rest) :
    Quoted ('\\' :: c :: text) (code :: units) rest
  | plain {c : Char} {text rest : List Char} {units : List Nat} (printed : 32 ≤ c.toNat)
    (other : c ≠ '"' ∧ c ≠ '\\') (later : Quoted text units rest) :
    Quoted (c :: text) (c.toNat :: units) rest

/-- Decimal digits of which zero is the first one only if it is the only one. -/
structure IsNumeral (digits : List Char) : Prop where
  present : digits ≠ []
  decimal : ∀ c ∈ digits, c.isDigit = true
  unpadded : digits.head? = some '0' → digits = ['0']

inductive Fraction : List Char → List Char → List Char → Prop
  | none (rest : List Char) : Fraction rest [] rest
  | some {digits : List Char} (rest : List Char) (present : digits ≠ [])
    (decimal : ∀ c ∈ digits, c.isDigit = true) : Fraction ('.' :: (digits ++ rest)) digits rest

def signed (negative : Bool) (size : Nat) : Int := if negative then -size else size

inductive Sign : List Char → Bool → Prop
  | none : Sign [] false
  | plus : Sign ['+'] false
  | minus : Sign ['-'] true

inductive Exponent : List Char → Option Int → List Char → Prop
  | none (rest : List Char) : Exponent rest none rest
  | some {letter : Char} {sign digits : List Char} {negative : Bool} (rest : List Char)
    (marked : letter = 'e' ∨ letter = 'E') (signs : Sign sign negative) (present : digits ≠ [])
    (decimal : ∀ c ∈ digits, c.isDigit = true) :
    Exponent (letter :: (sign ++ (digits ++ rest)))
      (some (signed negative (digitsValue digits))) rest

variable {R : Type} [Numeral R]

/-- A number behind its sign: a whole one, or one with a fraction or an exponent. -/
inductive Number : Bool → List Char → Json R → List Char → Prop
  | int {digits : List Char} (negative : Bool) (rest : List Char) (whole : IsNumeral digits) :
    Number negative (digits ++ rest) (.int (signed negative (digitsValue digits))) rest
  | real {digits text fraction middle rest : List Char} {exponent : Option Int}
    (negative : Bool) (whole : IsNumeral digits) (fractional : Fraction text fraction middle)
    (scaled : Exponent middle exponent rest) :
    Number negative (digits ++ text)
      (.real (Numeral.ofDecimal negative (digitsValue (digits ++ fraction))
        (exponent.getD 0 - fraction.length))) rest

/-- What a part of a text stands for: a value, or the items or fields up to the end of a list or
record. -/
inductive Phrase (R : Type) where
  | value (value : Json R)
  | items (items : List (Json R))
  | fields (fields : List (Text × Json R))

/-- A part of a text down to its rest stands for something. -/
inductive Spells : List Char → Phrase R → List Char → Prop
  | null (rest : List Char) : Spells ("null".toList ++ rest) (.value .null) rest
  | true (rest : List Char) : Spells ("true".toList ++ rest) (.value (.bool true)) rest
  | false (rest : List Char) : Spells ("false".toList ++ rest) (.value (.bool false)) rest
  | undefined (rest : List Char) :
    Spells ("NaN".toList ++ rest) (.value (.real Numeral.undefined)) rest
  | infinite (rest : List Char) :
    Spells ("Infinity".toList ++ rest) (.value (.real Numeral.infinite)) rest
  | infinitesimal (rest : List Char) :
    Spells ("-Infinity".toList ++ rest) (.value (.real (-Numeral.infinite))) rest
  | number {text rest : List Char} {value : Json R} (numeral : Number false text value rest) :
    Spells text (.value value) rest
  | negative {text rest : List Char} {value : Json R} (numeral : Number true text value rest) :
    Spells ('-' :: text) (.value value) rest
  | string {text rest : List Char} {units : List Nat} (quoted : Quoted text units rest) :
    Spells ('"' :: text) (.value (.string (textOfUnits units))) rest
  | emptyArray {text rest : List Char} (bare : Blanks text (']' :: rest)) :
    Spells ('[' :: text) (.value (.array [])) rest
  | array {text body rest : List Char} {items : List (Json R)} (spaced : Blanks text body)
    (listed : Spells body (.items items) rest) :
    Spells ('[' :: text) (.value (.array items)) rest
  | emptyObject {text rest : List Char} (bare : Blanks text ('\x7d' :: rest)) :
    Spells ('\x7b' :: text) (.value (.object [])) rest
  | object {text body rest : List Char} {fields : List (Text × Json R)} (spaced : Blanks text body)
    (listed : Spells body (.fields fields) rest) :
    Spells ('\x7b' :: text) (.value (.object (merge fields))) rest
  | lastItem {text after rest : List Char} {item : Json R} (first : Spells text (.value item) after)
    (close : Blanks after (']' :: rest)) : Spells text (.items [item]) rest
  | item {text after next more rest : List Char} {item : Json R} {items : List (Json R)}
    (first : Spells text (.value item) after) (comma : Blanks after (',' :: next))
    (spaced : Blanks next more) (later : Spells more (.items items) rest) :
    Spells text (.items (item :: items)) rest
  | lastField {text middle next body after rest : List Char} {units : List Nat} {value : Json R}
    (named : Quoted text units middle) (colon : Blanks middle (':' :: next))
    (spaced : Blanks next body) (first : Spells body (.value value) after)
    (close : Blanks after ('\x7d' :: rest)) :
    Spells ('"' :: text) (.fields [(textOfUnits units, value)]) rest
  | field {text middle next body after other more rest : List Char} {units : List Nat}
    {value : Json R} {fields : List (Text × Json R)} (named : Quoted text units middle)
    (colon : Blanks middle (':' :: next)) (spaced : Blanks next body)
    (first : Spells body (.value value) after) (comma : Blanks after (',' :: other))
    (parted : Blanks other more) (later : Spells more (.fields fields) rest) :
    Spells ('"' :: text) (.fields ((textOfUnits units, value) :: fields)) rest

def Denotes (text : List Char) (value : Json R) : Prop :=
  ∃ start rest, Blanks text start ∧ Spells start (.value value) rest ∧ Blanks rest []

theorem blanks_skipSpace (text : List Char) : Blanks text (skipSpace text) := by
  rw [skipSpace]
  induction text with
  | nil => exact .none []
  | cons c rest ih =>
    cases blank : isSpace c with
    | true =>
      rw [List.dropWhile_cons_of_pos blank]
      exact .more blank ih
    | false =>
      rw [List.dropWhile_cons_of_neg (by simp [blank])]
      exact .none _

theorem quoted_of_readCodes {text rest : List Char} {units : List Nat}
    (read : readCodes text = some (units, rest)) : Quoted text units rest := by
  fun_induction readCodes text generalizing units rest with
  | case1 => cases read
  | case2 =>
    cases read
    exact .close _
  | case3 a b c d text ih =>
    obtain ⟨high, first, read⟩ := Option.bind_eq_some_iff.1 read
    obtain ⟨second, next, read⟩ := Option.bind_eq_some_iff.1 read
    obtain ⟨third, after, read⟩ := Option.bind_eq_some_iff.1 read
    obtain ⟨low, last, read⟩ := Option.bind_eq_some_iff.1 read
    obtain ⟨⟨codes, behind⟩, later, same⟩ := Option.bind_eq_some_iff.1 read
    cases same
    exact .unit first next after last (ih later)
  | case4 c text _ ih =>
    obtain ⟨code, escape, read⟩ := Option.bind_eq_some_iff.1 read
    obtain ⟨⟨codes, behind⟩, later, same⟩ := Option.bind_eq_some_iff.1 read
    cases same
    exact .short escape (ih later)
  | case5 => cases read
  | case6 c text open_ _ escape printed ih =>
    obtain ⟨⟨codes, behind⟩, later, same⟩ := Option.bind_eq_some_iff.1 read
    cases same
    refine .plain (Nat.not_lt.1 printed) ⟨open_, ?_⟩ (ih later)
    -- A lone backslash at the end of a text is not read.
    rintro rfl
    cases text with
    | nil => cases later
    | cons next text => exact escape next text rfl rfl

def leadingDigits (text : List Char) : List Char :=
  match text with
  | '0' :: _ => ['0']
  | _ => text.takeWhile Char.isDigit

theorem leadingDigits_append (text : List Char) :
    leadingDigits text ++ text.drop (leadingDigits text).length = text := by
  unfold leadingDigits
  split
  · rfl
  · rw [List.prefix_iff_eq_append.1 (List.takeWhile_prefix _)]

theorem isDigit_of_mem_takeWhile {c : Char} {text : List Char}
    (member : c ∈ text.takeWhile Char.isDigit) : c.isDigit = true :=
  List.all_eq_true.1 List.all_takeWhile c member

theorem isNumeral_leadingDigits {text : List Char} (present : leadingDigits text ≠ []) :
    IsNumeral (leadingDigits text) := by
  unfold leadingDigits at present ⊢
  split
  · exact ⟨by simp, by simp, fun _ => rfl⟩
  · rename_i unpadded
    have some : text.takeWhile Char.isDigit ≠ [] := by
      split at present
      · exact absurd rfl (unpadded _)
      · exact present
    refine ⟨some, fun c => isDigit_of_mem_takeWhile, fun zero => ?_⟩
    rw [List.head?_takeWhile, Option.filter_eq_some_iff, List.head?_eq_some_iff] at zero
    obtain ⟨⟨rest, rfl⟩, _⟩ := zero
    exact absurd rfl (unpadded rest)

theorem fraction_of_readFraction (text : List Char) :
    Fraction text (readFraction text).1 (readFraction text).2 := by
  unfold readFraction
  split
  · rename_i rest
    dsimp only
    split
    · exact .none _
    · rename_i present
      have found := Fraction.some (rest.dropWhile Char.isDigit)
        (by simpa using present : rest.takeWhile Char.isDigit ≠ [])
        fun c => isDigit_of_mem_takeWhile
      rwa [List.takeWhile_append_dropWhile] at found
  · exact .none _

theorem exponent_of_readExponent (text : List Char) :
    Exponent text (readExponent text).1 (readExponent text).2 := by
  have scaled {letter : Char} {sign unsigned : List Char} {negative : Bool}
      (marked : letter = 'e' ∨ letter = 'E') (signs : Sign sign negative)
      (present : ¬ (unsigned.takeWhile Char.isDigit).isEmpty = true) :
      Exponent (letter :: (sign ++ unsigned))
        (some (signed negative (digitsValue (unsigned.takeWhile Char.isDigit))))
        (unsigned.dropWhile Char.isDigit) := by
    have found := Exponent.some (unsigned.dropWhile Char.isDigit) marked signs
      (by simpa using present : unsigned.takeWhile Char.isDigit ≠ [])
      fun c => isDigit_of_mem_takeWhile
    rwa [List.takeWhile_append_dropWhile] at found
  unfold readExponent
  split
  · rename_i letter rest
    split
    · rename_i marked
      dsimp only
      -- A sign or none, and digits behind it or none. Without digits the letter is left where it
      -- is.
      split <;> dsimp only <;> split
      · exact .none _
      · exact scaled marked .minus ‹_›
      · exact .none _
      · exact scaled marked .plus ‹_›
      · exact .none _
      · exact scaled marked .none ‹_›
    · exact .none _
  · exact .none _

theorem readNumber_eq (negative : Bool) (text : List Char) :
    (readNumber negative text : Except ReadError (Json R × List Char)) =
      if (leadingDigits text).isEmpty then .error .malformed
      else
        let fraction := readFraction (text.drop (leadingDigits text).length)
        let exponent := readExponent fraction.2
        if fraction.1.isEmpty ∧ exponent.1.isNone then
          if digitLimit < (leadingDigits text).length then .error .oversized
          else .ok (.int (signed negative (digitsValue (leadingDigits text))), exponent.2)
        else
          .ok (.real (Numeral.ofDecimal negative (digitsValue (leadingDigits text ++ fraction.1))
            (exponent.1.getD 0 - fraction.1.length)), exponent.2) := rfl

theorem Fraction.eq_of_nil {text rest : List Char} (bare : Fraction text [] rest) :
    text = rest := by
  cases bare with
  | none => rfl
  | some _ present => exact absurd rfl present

theorem Exponent.eq_of_none {text rest : List Char} (bare : Exponent text .none rest) :
    text = rest := by
  cases bare
  rfl

theorem number_of_readNumber {negative : Bool} {text rest : List Char} {value : Json R}
    (read : readNumber negative text = .ok (value, rest)) : Number negative text value rest := by
  rw [readNumber_eq] at read
  split at read
  · cases read
  rename_i present
  have whole := isNumeral_leadingDigits (by simpa using present)
  have parts := leadingDigits_append text
  have fraction := fraction_of_readFraction (text.drop (leadingDigits text).length)
  have exponent := exponent_of_readExponent
    (readFraction (text.drop (leadingDigits text).length)).2
  dsimp only at read
  split at read
  -- Neither a fraction nor an exponent, so nothing was read but the digits.
  · rename_i bare
    split at read
    · cases read
    rw [List.isEmpty_iff, Option.isNone_iff_eq_none] at bare
    rw [bare.1] at fraction
    rw [bare.2] at exponent
    have same := fraction.eq_of_nil.trans exponent.eq_of_none
    cases read
    rw [← same]
    have number := Number.int (R := R) negative (text.drop (leadingDigits text).length) whole
    rwa [parts] at number
  · cases read
    have number := Number.real (R := R) negative whole fraction exponent
    rwa [parts] at number

end PersonalFeed.Json
