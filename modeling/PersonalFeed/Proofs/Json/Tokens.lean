import Mathlib.Data.List.TakeWhile
import PersonalFeed.Json.Writer
import PersonalFeed.Number.Reading
import PersonalFeed.Proofs.Cache.Keys
import PersonalFeed.Proofs.Json.Grammar

/-!
Numbers and texts are read back out of a longer text. A number goes on as long as there are digits,
points and exponents, so it is read whole if none of these stands behind it; a text ends at its
closing quote, and every character of it is written so that it is not taken for that.
-/

set_option autoImplicit false

namespace PersonalFeed.Json

/-! ### What stands behind a value -/

/-- What may follow a value: nothing, or a comma or bracket. -/
def Ends (rest : List Char) : Prop :=
  ∀ c more, rest = c :: more → c = ',' ∨ c = ']' ∨ c = '\x7d'

theorem ends_nil : Ends [] := fun _ _ same => by cases same

theorem ends_comma (rest : List Char) : Ends (',' :: rest) := by
  rintro c more ⟨⟩
  exact .inl rfl

theorem ends_array (rest : List Char) : Ends (']' :: rest) := by
  rintro c more ⟨⟩
  exact .inr (.inl rfl)

theorem ends_object (rest : List Char) : Ends ('\x7d' :: rest) := by
  rintro c more ⟨⟩
  exact .inr (.inr rfl)

section

variable {rest : List Char} (ends : Ends rest)

include ends

theorem takeWhile_isDigit_of_ends : rest.takeWhile Char.isDigit = [] := by
  cases rest with
  | nil => rfl
  | cons c more => rcases ends c more rfl with rfl | rfl | rfl <;> rfl

theorem dropWhile_isDigit_of_ends : rest.dropWhile Char.isDigit = rest := by
  have parts := List.takeWhile_append_dropWhile (p := Char.isDigit) (l := rest)
  rwa [takeWhile_isDigit_of_ends ends] at parts

theorem takeWhile_isDigit_append (text : List Char) :
    (text ++ rest).takeWhile Char.isDigit = text.takeWhile Char.isDigit := by
  rw [List.takeWhile_append, takeWhile_isDigit_of_ends ends, List.append_nil]
  split
  · rename_i same
    exact ((List.takeWhile_prefix _).eq_of_length same).symm
  · rfl

theorem dropWhile_isDigit_append (text : List Char) :
    (text ++ rest).dropWhile Char.isDigit = text.dropWhile Char.isDigit ++ rest := by
  rw [List.dropWhile_append]
  split
  · rename_i none
    rw [List.isEmpty_iff.1 none, dropWhile_isDigit_of_ends ends]
    rfl
  · rfl

theorem leadingDigits_append_ends (text : List Char) :
    leadingDigits (text ++ rest) = leadingDigits text := by
  cases text with
  | nil =>
    cases rest with
    | nil => rfl
    | cons c more => rcases ends c more rfl with rfl | rfl | rfl <;> rfl
  | cons c text =>
    by_cases zero : c = '0'
    · rw [zero]
      rfl
    · have digits (tail : List Char) : leadingDigits (c :: tail) =
          (c :: tail).takeWhile Char.isDigit := by
        rw [leadingDigits]
        exact fun _ same => zero (List.cons.inj same).1
      rw [List.cons_append, digits, digits]
      exact takeWhile_isDigit_append ends (c :: text)

theorem readFraction_append (text : List Char) :
    readFraction (text ++ rest) = ((readFraction text).1, (readFraction text).2 ++ rest) := by
  have other {c : Char} (tail : List Char) (point : c ≠ '.') :
      readFraction (c :: tail) = ([], c :: tail) := by
    rw [readFraction]
    exact fun _ same => point (List.cons.inj same).1
  cases text with
  | nil =>
    cases rest with
    | nil => rfl
    | cons c more => rcases ends c more rfl with rfl | rfl | rfl <;> rfl
  | cons c text =>
    by_cases point : c = '.'
    · subst point
      simp only [readFraction, List.cons_append, takeWhile_isDigit_append ends,
        dropWhile_isDigit_append ends]
      split <;> rfl
    · rw [List.cons_append, other _ point, other _ point]
      rfl

theorem splitSign_append (text : List Char) :
    Number.splitSign (text ++ rest) =
      ((Number.splitSign text).1, (Number.splitSign text).2 ++ rest) := by
  have unsigned {c : Char} (tail : List Char) (minus : c ≠ '-') (plus : c ≠ '+') :
      Number.splitSign (c :: tail) = (false, c :: tail) := by
    rw [Number.splitSign]
    · exact fun _ same => minus (List.cons.inj same).1
    · exact fun _ same => plus (List.cons.inj same).1
  cases text with
  -- What ends a number starts with no sign.
  | nil =>
    cases rest with
    | nil => rfl
    | cons c more => rcases ends c more rfl with rfl | rfl | rfl <;> rfl
  | cons c text =>
    by_cases minus : c = '-'
    · rw [minus]
      rfl
    · by_cases plus : c = '+'
      · rw [plus]
        rfl
      · rw [List.cons_append, unsigned _ minus plus, unsigned _ minus plus]
        rfl

theorem readExponent_append (text : List Char) :
    readExponent (text ++ rest) = ((readExponent text).1, (readExponent text).2 ++ rest) := by
  -- One form for all three branches of the sign, so that only what follows it is appended to.
  have scaled {c : Char} (marked : c = 'e' ∨ c = 'E') (tail : List Char) :
      readExponent (c :: tail) =
        if ((Number.splitSign tail).2.takeWhile Char.isDigit).isEmpty then (none, c :: tail)
        else
          (some (signed (Number.splitSign tail).1
              (digitsValue ((Number.splitSign tail).2.takeWhile Char.isDigit))),
            (Number.splitSign tail).2.dropWhile Char.isDigit) := by
    unfold readExponent
    dsimp only
    rw [if_pos marked]
    split
    · rfl
    · rfl
    · rename_i minus plus
      rw [Number.splitSign]
      · rfl
      · exact minus
      · exact plus
  cases text with
  | nil =>
    cases rest with
    | nil => rfl
    | cons c more => rcases ends c more rfl with rfl | rfl | rfl <;> rfl
  | cons c text =>
    by_cases marked : c = 'e' ∨ c = 'E'
    · rw [List.cons_append, scaled marked, scaled marked, splitSign_append ends]
      dsimp only
      rw [takeWhile_isDigit_append ends, dropWhile_isDigit_append ends]
      split <;> rfl
    · simp [readExponent, marked]

variable {R : Type} [Numeral R]

/-- A number that is read to the end of its text is read as well if something follows. -/
theorem readNumber_append {negative : Bool} {text : List Char} {value : Json R}
    (read : readNumber negative text = .ok (value, [])) :
    readNumber negative (text ++ rest) = .ok (value, rest) := by
  -- The digits in front are the same, so both are cut at the same place.
  have cut : (text ++ rest).drop (leadingDigits text).length =
      text.drop (leadingDigits text).length ++ rest := by
    refine List.drop_append_of_le_length ?_
    have parts := congrArg List.length (leadingDigits_append text)
    rw [List.length_append] at parts
    omega
  rw [readNumber_eq] at read
  rw [readNumber_eq, leadingDigits_append_ends ends, cut]
  dsimp only at read ⊢
  rw [readFraction_append ends, readExponent_append ends]
  split at read
  · cases read
  rename_i present
  rw [if_neg present]
  split at read
  · rename_i bare
    rw [if_pos bare]
    split at read
    · cases read
    · rename_i short
      rw [if_neg short]
      obtain ⟨rfl, none⟩ := Prod.mk.inj (Except.ok.inj read)
      rw [none]
      rfl
  · rename_i scaled
    rw [if_neg scaled]
    obtain ⟨rfl, none⟩ := Prod.mk.inj (Except.ok.inj read)
    rw [none]
    rfl

end

/-! ### Texts -/

def spelledText (text : Text) : List Char := '"' :: (text.codes.flatMap writeCode ++ ['"'])

theorem hexText_succ {width : Nat} (positive : 0 < width) (n : Nat) :
    Text.hexText (width + 1) n = Text.hexText width (n / 16) ++ [(n % 16).digitChar] := by
  unfold Text.hexText
  dsimp only
  by_cases small : n < 16
  · rw [Nat.toDigits_of_lt_base small, Nat.div_eq_of_lt small, Nat.mod_eq_of_lt small]
    cases width with
    | zero => cases positive
    | succ width =>
      rw [show Nat.toDigits 16 0 = ['0'] from rfl]
      simp [← List.replicate_succ']
  · rw [Nat.toDigits_of_base_le (by decide) (Nat.not_lt.1 small), List.length_append,
      ← List.append_assoc]
    congr 3
    simp

theorem hexText_four {n : Nat} (unit : n < 0x10000) :
    Text.hexText 4 n = [(n / 16 / 16 / 16).digitChar, (n / 16 / 16 % 16).digitChar,
      (n / 16 % 16).digitChar, (n % 16).digitChar] := by
  have first : Text.hexText 1 (n / 16 / 16 / 16) = [(n / 16 / 16 / 16).digitChar] := by
    rw [Text.hexText, Nat.toDigits_of_lt_base (by omega)]
    rfl
  rw [hexText_succ (by decide), hexText_succ (by decide), hexText_succ (by decide), first]
  rfl

theorem hexValue?_digitChar : ∀ digit < 16, hexValue? digit.digitChar = some digit := by
  decide

theorem readCodes_unitEscape {unit : Nat} (fits : unit < 0x10000) (rest : List Char) :
    readCodes (unitEscape unit ++ rest) =
      (readCodes rest).map fun read => (unit :: read.1, read.2) := by
  have value : unit / 16 / 16 / 16 * 0x1000 + unit / 16 / 16 % 16 * 0x100 + unit / 16 % 16 * 0x10 +
      unit % 16 = unit := by omega
  rw [unitEscape, hexText_four fits]
  simp only [List.cons_append, List.nil_append, readCodes]
  rw [hexValue?_digitChar _ (by omega), hexValue?_digitChar _ (by omega),
    hexValue?_digitChar _ (by omega), hexValue?_digitChar _ (by omega)]
  simp only [Option.pure_def, Option.bind_eq_bind, Option.bind_some, value]
  cases readCodes rest <;> rfl

def unitsOf (c : Char) : List Nat :=
  if c.toNat < 0x10000 then [c.toNat]
  else [0xD800 + (c.toNat - 0x10000) / 0x400, 0xDC00 + (c.toNat - 0x10000) % 0x400]

theorem toNat_lt (c : Char) : c.toNat < 0x110000 ∧ (c.toNat < 0xD800 ∨ 0xE000 ≤ c.toNat) := by
  have valid := c.valid
  simp only [Char.toNat, UInt32.isValidChar, Nat.isValidChar] at *
  omega

theorem readCodes_codeEscape (c : Char) (rest : List Char) :
    readCodes (codeEscape c.toNat ++ rest) =
      (readCodes rest).map fun read => (unitsOf c ++ read.1, read.2) := by
  have bound := toNat_lt c
  unfold codeEscape unitsOf
  split
  · rename_i short
    exact readCodes_unitEscape short rest
  · rw [List.append_assoc, readCodes_unitEscape (by omega), readCodes_unitEscape (by omega),
      Option.map_map]
    rfl

theorem readCodes_writeCode (c : Char) (rest : List Char) :
    readCodes (writeCode (.char c) ++ rest) =
      (readCodes rest).map fun read => (unitsOf c ++ read.1, read.2) := by
  have short {letter : Char} {code : Nat} (escape : shortEscape? letter = some code)
      (other : letter ≠ 'u') : readCodes ('\\' :: letter :: rest) =
        (readCodes rest).map fun read => ([code] ++ read.1, read.2) := by
    rw [readCodes, escape]
    · cases readCodes rest <;> rfl
    · exact fun _ _ _ _ _ same _ => other same
  -- The cases are those of the writer: quotes and backslashes, the five controls with letters of
  -- their own, printable characters, and all others by the numbers of their units.
  unfold writeCode
  dsimp only
  split
  · rename_i marked
    rcases marked with rfl | rfl <;> exact short rfl (by decide)
  split
  · rename_i same
    exact same ▸ short rfl (by decide)
  split
  · rename_i same
    exact same ▸ short rfl (by decide)
  split
  · rename_i same
    exact same ▸ short rfl (by decide)
  split
  · rename_i back
    rw [unitsOf, back]
    exact short rfl (by decide)
  split
  · rename_i feed
    rw [unitsOf, feed]
    exact short rfl (by decide)
  split
  · rename_i quoted _ _ _ _ _ printed
    rw [not_or] at quoted
    have bounds : 32 ≤ c.toNat ∧ c.toNat ≤ 126 := by
      rw [Text.isBetween, Bool.and_eq_true, decide_eq_true_eq, decide_eq_true_eq] at printed
      exact printed
    rw [unitsOf, if_pos (by omega), List.singleton_append, readCodes, if_neg (by omega)]
    · cases readCodes rest <;> rfl
    · exact quoted.1
    · exact fun _ _ _ _ _ same _ => quoted.2 same
    · exact fun _ _ same _ => quoted.2 same
  · exact readCodes_codeEscape c rest

/-- Units that two characters share are no pair of halves, so joining them gives the characters. -/
theorem joinSurrogates_unitsOf (c : Char) (units : List Nat) :
    joinSurrogates (unitsOf c ++ units) = c.toNat :: joinSurrogates units := by
  obtain ⟨bound, whole⟩ := toNat_lt c
  unfold unitsOf
  split
  · cases units with
    | nil => rfl
    | cons low rest =>
      rw [List.singleton_append, joinSurrogates, if_neg (by omega)]
  · have value : 0x10000 + (0xD800 + (c.toNat - 0x10000) / 0x400 - 0xD800) * 0x400 +
        (0xDC00 + (c.toNat - 0x10000) % 0x400 - 0xDC00) = c.toNat := by omega
    rw [List.cons_append, List.singleton_append, joinSurrogates, if_pos (by omega), value]

theorem textOfUnits_unitsOf (chars : List Char) :
    textOfUnits (chars.flatMap unitsOf) = .ofChars chars := by
  have joined : joinSurrogates (chars.flatMap unitsOf) = chars.map Char.toNat := by
    induction chars with
    | nil => rfl
    | cons c rest ih => rw [List.flatMap_cons, joinSurrogates_unitsOf, ih, List.map_cons]
  rw [textOfUnits, joined, List.map_map, Text.ofChars]
  exact congrArg Text.mk (List.map_congr_left fun c _ => Code.ofNumber_number (.char c))

theorem readCodes_spelledText {text : Text} (whole : text.isWhole = true) (rest : List Char) :
    ∃ units, readCodes (text.codes.flatMap writeCode ++ '"' :: rest) = some (units, rest) ∧
      textOfUnits units = text := by
  obtain ⟨s, written⟩ := Text.exists_of_isWhole whole
  rw [← Text.ofString_of_toString? written, Text.ofString]
  refine ⟨s.toList.flatMap unitsOf, ?_, textOfUnits_unitsOf s.toList⟩
  rw [Text.ofChars, List.flatMap_map]
  induction s.toList with
  | nil => rw [List.flatMap_nil, List.nil_append, readCodes]; rfl
  | cons c chars ih =>
    rw [List.flatMap_cons, List.append_assoc, readCodes_writeCode, ih, List.flatMap_cons]
    rfl

/-! ### Numbers -/

theorem head_toDigits {n : Nat} (positive : 0 < n) : (Nat.toDigits 10 n).head? ≠ some '0' := by
  induction n using Nat.strongRecOn with
  | ind n ih =>
    by_cases small : n < 10
    · rw [Nat.toDigits_of_lt_base small]
      have digit : ∀ d < 10, 0 < d → [d.digitChar].head? ≠ some '0' := by decide
      exact digit n small positive
    · rw [Nat.toDigits_of_base_le (by decide) (Nat.not_lt.1 small), List.head?_append]
      have first := ih (n / 10) (by omega) (by omega)
      cases head : (Nat.toDigits 10 (n / 10)).head? with
      | none => exact absurd (List.head?_eq_none_iff.1 head) Nat.toDigits_ne_nil
      | some c => rwa [head] at first

theorem digitsValue_toDigits (n : Nat) : digitsValue (Nat.toDigits 10 n) = n := by
  have folded (digits : List Char) : digitsValue digits = Nat.ofDigitChars 10 digits 0 := by
    simp only [digitsValue, Nat.ofDigitChars, Nat.mul_comm 10]
  rw [folded, Nat.ofDigitChars_ten_toDigits]

theorem leadingDigits_toDigits (n : Nat) (rest : List Char)
    (stops : rest.takeWhile Char.isDigit = []) :
    leadingDigits (Nat.toDigits 10 n ++ rest) = Nat.toDigits 10 n := by
  unfold leadingDigits
  split
  · rename_i tail padded
    rcases Nat.eq_zero_or_pos n with rfl | positive
    · rfl
    · have first := congrArg List.head? padded
      rw [List.head?_append_of_ne_nil _ Nat.toDigits_ne_nil] at first
      exact absurd first (head_toDigits positive)
  · rw [List.takeWhile_append_of_pos fun c member =>
      Nat.isDigit_of_mem_toDigits (by decide) (by decide) member, stops, List.append_nil]

variable {R : Type} [Numeral R]

/-- The digits of a whole number are read as this number, unless there are too many. -/
theorem readNumber_toDigits (negative : Bool) {n : Nat}
    (short : (Nat.toDigits 10 n).length ≤ digitLimit) :
    (readNumber negative (Nat.toDigits 10 n) : Except ReadError (Json R × List Char)) =
      .ok (.int (signed negative n), []) := by
  have digits := leadingDigits_toDigits n [] rfl
  rw [List.append_nil] at digits
  rw [readNumber_eq, digits, List.drop_length, digitsValue_toDigits, if_neg (by simp)]
  dsimp only [readFraction, readExponent]
  rw [if_pos ⟨rfl, rfl⟩, if_neg (Nat.not_lt.2 short)]

theorem readNumber_millionths (negative : Bool) (n : Nat) :
    (readNumber negative (Nat.toDigits 10 n ++ "e-6".toList) :
        Except ReadError (Json R × List Char)) =
      .ok (.real (Numeral.ofDecimal negative n (-6)), []) := by
  have digits := leadingDigits_toDigits n "e-6".toList rfl
  have whole : readFraction "e-6".toList = ([], "e-6".toList) := rfl
  have power : readExponent "e-6".toList = (some (-6), []) := by decide
  rw [readNumber_eq, digits, List.drop_left, if_neg (by simp)]
  simp only [whole, power]
  rw [if_neg (by simp), List.append_nil, digitsValue_toDigits]
  rfl

def IsWritableNumber (x : R) : Prop :=
  ∃ negative body, (writeReal x).toList = (if negative then '-' :: body else body) ∧
    readNumber negative body = .ok (.real x, [])

theorem digit_of_readNumber {negative : Bool} {text rest : List Char} {value : Json R}
    (read : readNumber negative text = .ok (value, rest)) :
    ∃ c tail, text = c :: tail ∧ c.isDigit = true := by
  rw [readNumber_eq] at read
  split at read
  · cases read
  · rename_i present
    have numeral := isNumeral_leadingDigits (by simpa using present)
    have parts := leadingDigits_append text
    cases digits : leadingDigits text with
    | nil => exact absurd digits numeral.present
    | cons c tail =>
      refine ⟨c, _, (digits ▸ parts).symm, numeral.decimal c ?_⟩
      rw [digits]
      exact List.mem_cons_self

theorem eq_of_writeReal {x y : R} (first : IsWritableNumber x) (second : IsWritableNumber y)
    (same : writeReal x = writeReal y) : x = y := by
  obtain ⟨negative, body, written, read⟩ := first
  obtain ⟨negative', body', written', read'⟩ := second
  rw [same, written'] at written
  -- A body starts with a digit, so the sign is told by the first character.
  have unsigned {sign : Bool} {text other : List Char} {z : Json R}
      (read : readNumber sign text = .ok (z, [])) : text ≠ '-' :: other := by
    rintro rfl
    obtain ⟨c, tail, starts, digit⟩ := digit_of_readNumber read
    cases starts
    cases digit
  have parts : negative = negative' ∧ body = body' := by
    cases negative <;> cases negative'
    · exact ⟨rfl, written.symm⟩
    · exact absurd written.symm (unsigned read)
    · exact absurd written (unsigned read')
    · exact ⟨rfl, (List.cons.inj written).2.symm⟩
  obtain ⟨rfl, rfl⟩ := parts
  cases read.symm.trans read'
  rfl

end PersonalFeed.Json
