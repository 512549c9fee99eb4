/-!
Patterns of keys. `*` stands for any text, `?` for any character and `[…]` for one character of a
class, or of its complement after `^`. A backslash takes the next character as it is. A class that
is not closed ends with the pattern, and the ends of a range may be given in either order. Keys and
patterns are compared by their bytes, so a character beyond ASCII counts as several.
-/

set_option autoImplicit false

namespace PersonalFeed.Glob

inductive Atom where
  | many
  | any
  | one (c : Char)
  | among (negated : Bool) (ranges : List (Char × Char))
  deriving DecidableEq, Repr

def rangeOf (a b : Char) : Char × Char := if b < a then (b, a) else (a, b)

/-- The ranges of a class up to its end, and the pattern after it; `fuel` bounds the members. -/
def readClass : Nat → List Char → List (Char × Char) × List Char
  | 0, rest => ([], rest)
  | _ + 1, [] => ([], [])
  | fuel + 1, c :: rest =>
    let add (range : Char × Char) (rest : List Char) : List (Char × Char) × List Char :=
      let (ranges, after) := readClass fuel rest
      (range :: ranges, after)
    match c, rest with
    | '\\', next :: rest => add (next, next) rest
    | ']', rest => ([], rest)
    | first, '-' :: last :: rest => add (rangeOf first last) rest
    | c, rest => add (c, c) rest

/-- The parts of a pattern; `fuel` bounds their number. -/
def readAtoms : Nat → List Char → List Atom
  | 0, _ => []
  | _ + 1, [] => []
  | fuel + 1, c :: rest =>
    match c, rest with
    | '*', rest => .many :: readAtoms fuel rest
    | '?', rest => .any :: readAtoms fuel rest
    | '\\', next :: rest => .one next :: readAtoms fuel rest
    | '[', '^' :: rest =>
      let (ranges, after) := readClass rest.length rest
      .among true ranges :: readAtoms fuel after
    | '[', rest =>
      let (ranges, after) := readClass rest.length rest
      .among false ranges :: readAtoms fuel after
    | c, rest => .one c :: readAtoms fuel rest

def parse (pattern : List Char) : List Atom := readAtoms pattern.length pattern

def isAmong (negated : Bool) (ranges : List (Char × Char)) (c : Char) : Bool :=
  (ranges.any fun range => range.1 ≤ c && c ≤ range.2) != negated

inductive Matches : List Atom → List Char → Prop where
  | empty : Matches [] []
  | many {atoms : List Atom} {skipped rest : List Char} :
      Matches atoms rest → Matches (.many :: atoms) (skipped ++ rest)
  | any {atoms : List Atom} {c : Char} {rest : List Char} :
      Matches atoms rest → Matches (.any :: atoms) (c :: rest)
  | one {atoms : List Atom} {c : Char} {rest : List Char} :
      Matches atoms rest → Matches (.one c :: atoms) (c :: rest)
  | among {atoms : List Atom} {negated : Bool} {ranges : List (Char × Char)} {c : Char}
      {rest : List Char} : isAmong negated ranges c = true → Matches atoms rest →
      Matches (.among negated ranges :: atoms) (c :: rest)

def anyEnd (test : List Char → Bool) : List Char → Bool
  | [] => test []
  | c :: rest => test (c :: rest) || anyEnd test rest

theorem anyEnd_iff (test : List Char → Bool) (text : List Char) :
    anyEnd test text = true ↔ ∃ skipped rest, skipped ++ rest = text ∧ test rest = true := by
  induction text with
  | nil => simp [anyEnd, and_assoc]
  | cons c text ih =>
    simp only [anyEnd, Bool.or_eq_true, ih]
    constructor
    · rintro (here | ⟨skipped, rest, rfl, later⟩)
      · exact ⟨[], c :: text, rfl, here⟩
      · exact ⟨c :: skipped, rest, rfl, later⟩
    · rintro ⟨skipped, rest, split, passed⟩
      cases skipped with
      | nil =>
        subst split
        exact .inl passed
      | cons d skipped =>
        obtain ⟨rfl, rfl⟩ := List.cons.inj split
        exact .inr ⟨skipped, rest, rfl, passed⟩

def accepts : List Atom → List Char → Bool
  | [], text => text.isEmpty
  | .many :: atoms, text => anyEnd (accepts atoms) text
  | .any :: atoms, text =>
    match text with
    | _ :: rest => accepts atoms rest
    | [] => false
  | .one a :: atoms, text =>
    match text with
    | c :: rest => a == c && accepts atoms rest
    | [] => false
  | .among negated ranges :: atoms, text =>
    match text with
    | c :: rest => isAmong negated ranges c && accepts atoms rest
    | [] => false

theorem accepts_iff (atoms : List Atom) (text : List Char) :
    accepts atoms text = true ↔ Matches atoms text := by
  induction atoms generalizing text with
  | nil =>
    constructor
    · intro h
      cases text with
      | nil => exact .empty
      | cons c rest => simp [accepts] at h
    · intro h
      cases h
      rfl
  | cons atom atoms ih =>
    cases atom with
    | many =>
      simp only [accepts, anyEnd_iff]
      constructor
      · rintro ⟨skipped, rest, rfl, h⟩
        exact .many ((ih rest).1 h)
      · intro h
        cases h with
        | many h => exact ⟨_, _, rfl, (ih _).2 h⟩
    | any =>
      cases text with
      | nil => exact ⟨fun h => by simp [accepts] at h, fun h => by cases h⟩
      | cons c rest =>
        simp only [accepts, ih]
        exact ⟨.any, fun h => by cases h with | any h => exact h⟩
    | one a =>
      cases text with
      | nil => exact ⟨fun h => by simp [accepts] at h, fun h => by cases h⟩
      | cons c rest =>
        simp only [accepts, Bool.and_eq_true, beq_iff_eq, ih]
        constructor
        · rintro ⟨rfl, h⟩
          exact .one h
        · intro h
          cases h with
          | one h => exact ⟨rfl, h⟩
    | among negated ranges =>
      cases text with
      | nil => exact ⟨fun h => by simp [accepts] at h, fun h => by cases h⟩
      | cons c rest =>
        simp only [accepts, Bool.and_eq_true, ih]
        exact ⟨fun h => .among h.1 h.2, fun h => by cases h with | among m h => exact ⟨m, h⟩⟩

def bytesOf (text : String) : List Char :=
  text.toUTF8.data.toList.map fun byte => Char.ofNat byte.toNat

def selects (pattern key : String) : Bool := accepts (parse (bytesOf pattern)) (bytesOf key)

end PersonalFeed.Glob
