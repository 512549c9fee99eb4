import PersonalFeed.Index.PointId
import PersonalFeed.Proofs.Lowering
import PersonalFeed.Proofs.Text

/-!
The grammar of post ids. The reader of ids is lenient, and an id has to agree with the one way of
writing the number that was read. The two together accept hexadecimal digits in their groups and
nothing else.
-/

set_option autoImplicit false

namespace PersonalFeed

/-! ### Rows in groups -/

section

variable {α β : Type} {p : α → Bool} {f : α → β} {separator : α} {groups : List (List α)}

theorem map_intercalate :
    ([separator].intercalate groups).map f = [f separator].intercalate (groups.map (List.map f)) := by
  induction groups with
  | nil => rfl
  | cons first rest ih =>
    cases rest with
    | nil => simp
    | cons second rest =>
      rw [List.intercalate_cons_cons, List.map_append, List.map_append, ih]
      simp [List.intercalate_cons_cons]

/-- Groups that a row has after a change of its members are groups that it had before. -/
theorem groups_of_map {list : List α} {images : List (List β)}
    (only : ∀ x, f x = f separator → x = separator)
    (same : list.map f = [f separator].intercalate images) :
    ∃ groups, list = [separator].intercalate groups ∧ groups.map (List.map f) = images := by
  induction images generalizing list with
  | nil => exact ⟨[], List.map_eq_nil_iff.1 same, rfl⟩
  | cons first rest ih =>
    cases rest with
    | nil => exact ⟨[list], by simp, by simpa using same⟩
    | cons second rest =>
      rw [List.intercalate_cons_cons, List.append_assoc] at same
      obtain ⟨group, _, rfl, rfl, later⟩ := List.map_eq_append_iff.1 same
      obtain ⟨mark, after, rfl, marked, later⟩ := List.map_eq_cons_iff.1 later
      obtain ⟨groups, rfl, each⟩ := ih later
      cases only mark marked
      cases groups with
      | nil => cases each
      | cons next groups =>
        refine ⟨group :: next :: groups, ?_, by rw [List.map_cons, each]⟩
        simp [List.intercalate_cons_cons]

theorem forall_mem_intercalate {P : α → Prop} (between : P separator)
    (inside : ∀ group ∈ groups, ∀ x ∈ group, P x) :
    ∀ x ∈ [separator].intercalate groups, P x := by
  induction groups with
  | nil => exact fun x member => absurd member List.not_mem_nil
  | cons first rest ih =>
    rw [List.forall_mem_cons] at inside
    cases rest with
    | nil => simpa using inside.1
    | cons second rest =>
      rw [List.intercalate_cons_cons, List.append_assoc]
      simp only [List.forall_mem_append, List.forall_mem_singleton]
      exact ⟨inside.1, between, ih inside.2⟩

theorem filter_intercalate (apart : p separator = false)
    (inside : ∀ group ∈ groups, ∀ x ∈ group, p x = true) :
    ([separator].intercalate groups).filter p = groups.flatten := by
  induction groups with
  | nil => rfl
  | cons first rest ih =>
    rw [List.forall_mem_cons] at inside
    have kept : first.filter p = first := List.filter_eq_self.2 inside.1
    cases rest with
    | nil => simp [kept]
    | cons second rest =>
      rw [List.intercalate_cons_cons, List.filter_append, List.filter_append, ih inside.2, kept,
        List.filter_cons_of_neg (by simp [apart])]
      simp

end

theorem PointId.isHexDigit_digitChar : ∀ d < 16, isHexDigit (Nat.digitChar d) = true := by decide

namespace PostId

/-! ### Digits -/

def hexLetters : List Char := "0123456789abcdefABCDEF".toList

def lowerLetter (c : Char) : Code := Text.lowerCode c

def digitValue (c : Char) : Nat := (hexValue? c).getD 0

theorem mem_hexLetters {c : Char} (digit : PointId.isHexDigit c = true) : c ∈ hexLetters := by
  have ascii : ∀ n < 128, PointId.isHexDigit (Char.ofNat n) = true → Char.ofNat n ∈ hexLetters := by
    decide +kernel
  have small : c.toNat < 128 := by
    simp only [PointId.isHexDigit, Char.isDigit, Bool.or_eq_true, Bool.and_eq_true,
      decide_eq_true_eq, Char.le_def, UInt32.le_iff_toNat_le] at digit
    change (48 ≤ c.toNat ∧ c.toNat ≤ 57 ∨ 97 ≤ c.toNat ∧ c.toNat ≤ 102) ∨
      65 ≤ c.toNat ∧ c.toNat ≤ 70 at digit
    omega
  rw [← Char.ofNat_toNat c] at digit ⊢
  exact ascii _ small digit

theorem forall_hexLetters {P : Char → Prop} [DecidablePred P]
    (each : hexLetters.all (fun c => P c) = true) : ∀ c ∈ hexLetters, P c :=
  fun c member => of_decide_eq_true (List.all_eq_true.1 each c member)

theorem read_hexLetters : ∀ c ∈ hexLetters, hexValue? c = some (digitValue c) ∧
    digitValue c < 16 ∧ lowerLetter c = .char (digitValue c).digitChar :=
  forall_hexLetters (by decide +kernel)

theorem plain_hexLetters : ∀ c ∈ hexLetters, Number.isMargin c = false ∧ isBrace c = false ∧
    Text.isAscii c = true :=
  forall_hexLetters (by decide +kernel)

theorem ne_of_mem_hexLetters {c mark : Char} (digit : c ∈ hexLetters) (apart : mark ∉ hexLetters) :
    c ≠ mark := fun same => apart (same ▸ digit)

section

variable {c : Char} {digits : List Char} {afterDigit : Bool} {start : Nat}

def AreDigits (digits : List Char) : Prop := ∀ c ∈ digits, c ∈ hexLetters

def valueFrom (start : Nat) (digits : List Char) : Nat :=
  digits.foldl (fun n c => n * 16 + digitValue c) start

theorem valueFrom_cons :
    valueFrom start (c :: digits) = valueFrom (start * 16 + digitValue c) digits := rfl

theorem valueFrom_append {ends : List Char} :
    valueFrom start (digits ++ ends) = valueFrom (valueFrom start digits) ends :=
  List.foldl_append

theorem AreDigits.head (are : AreDigits (c :: digits)) : c ∈ hexLetters := are c List.mem_cons_self

theorem AreDigits.tail (are : AreDigits (c :: digits)) : AreDigits digits :=
  fun d member => are d (List.mem_cons_of_mem c member)

theorem hexNumber?_cons (digit : c ∈ hexLetters) :
    hexNumber? afterDigit start (c :: digits) =
      hexNumber? true (start * 16 + digitValue c) digits := by
  rw [hexNumber?, (read_hexLetters c digit).1]
  exact ne_of_mem_hexLetters digit (by decide)

theorem hexNumber?_digits (are : AreDigits digits) :
    hexNumber? true start digits = some (valueFrom start digits) := by
  induction digits generalizing start with
  | nil => rfl
  | cons c rest ih =>
    rw [hexNumber?_cons are.head, ih are.tail]
    rfl

theorem dropMark_digits (are : AreDigits digits) : dropMark digits = digits := by
  match digits with
  | [] => rfl
  | [_] => rfl
  | zero :: c :: rest =>
    have small : c ≠ 'x' := ne_of_mem_hexLetters are.tail.head (by decide)
    have large : c ≠ 'X' := ne_of_mem_hexLetters are.tail.head (by decide)
    simp [dropMark, small, large]

theorem splitSign_digits (are : AreDigits digits) :
    Number.splitSign digits = (false, digits) := by
  cases digits with
  | nil => rfl
  | cons c rest =>
    have minus : c ≠ '-' := ne_of_mem_hexLetters are.head (by decide)
    have plus : c ≠ '+' := ne_of_mem_hexLetters are.head (by decide)
    rw [Number.splitSign]
    · exact fun rest same => minus (List.cons.inj same).1
    · exact fun rest same => plus (List.cons.inj same).1

theorem number?_digits (some : digits ≠ []) (are : AreDigits digits) :
    number? digits = .some (valueFrom 0 digits : Int) := by
  have trimmed : Number.trim digits = digits :=
    trimWhile_of_none fun c member => (plain_hexLetters c (are c member)).1
  obtain ⟨c, rest, rfl⟩ := List.exists_cons_of_ne_nil some
  rw [number?, trimmed, splitSign_digits are]
  dsimp only
  rw [dropMark_digits are, hexNumber?_cons are.head, hexNumber?_digits are.tail]
  rfl

theorem valueFrom_div (are : AreDigits digits) (start : Nat) :
    valueFrom start digits / Nat.pow 16 digits.length = start := by
  induction digits generalizing start with
  | nil => exact Nat.div_one _
  | cons c rest ih =>
    have small := (read_hexLetters c are.head).2.1
    have power : Nat.pow 16 (c :: rest).length = Nat.pow 16 rest.length * 16 := rfl
    rw [valueFrom_cons, power, ← Nat.div_div_eq_div_mul, ih are.tail]
    omega

theorem valueFrom_lt (are : AreDigits digits) :
    valueFrom 0 digits < Nat.pow 16 digits.length := by
  have none := valueFrom_div are 0
  have positive : 0 < Nat.pow 16 digits.length := Nat.pow_pos (by decide)
  exact (Nat.div_eq_zero_iff.1 none).resolve_left (Nat.ne_of_gt positive)

theorem hexDigits_succ (skipped count n : Nat) : hexDigits skipped (count + 1) n =
    (n / Nat.pow 16 (skipped + count) % 16).digitChar :: hexDigits skipped count n := by
  rw [hexDigits, List.range_succ, List.reverse_append]
  rfl

/-- The digits of a number are those that it was read from, in lower case. -/
theorem hexDigits_valueFrom {ends : List Char} (are : AreDigits (digits ++ ends)) (start : Nat) :
    (hexDigits ends.length digits.length (valueFrom start (digits ++ ends))).map Code.char =
      digits.map lowerLetter := by
  induction digits generalizing start with
  | nil => rfl
  | cons c rest ih =>
    -- All digits behind the first one are divided away from it, and those before it are left out.
    rw [List.cons_append] at are
    obtain ⟨-, small, lowered⟩ := read_hexLetters c are.head
    have above := valueFrom_div are.tail (start * 16 + digitValue c)
    rw [List.length_append, Nat.add_comm rest.length] at above
    have digit : (start * 16 + digitValue c) % 16 = digitValue c := by omega
    rw [List.cons_append, valueFrom_cons, List.length_cons, hexDigits_succ, above, digit,
      List.map_cons, List.map_cons, lowered, ih are.tail]

end

/-! ### Groups -/

def groupLengths : List Nat := [8, 4, 4, 4, 12]

def IsGrouped (text : Text) : Prop :=
  ∃ groups : List (List Char), groups.map List.length = groupLengths ∧
    (∀ group ∈ groups, ∀ c ∈ group, PointId.isHexDigit c = true) ∧
    text = .ofChars (['-'].intercalate groups)

def digitCount (lengths : List Nat) : Nat := lengths.foldr (· + ·) 0

def groupsOf : List Nat → Nat → List (List Char)
  | [], _ => []
  | count :: rest, n => hexDigits (digitCount rest) count n :: groupsOf rest n

section

variable {text : Text} {lengths : List Nat} {groups : List (List Char)} {start n : Nat}

theorem length_flatten_eq : groups.flatten.length = digitCount (groups.map List.length) := by
  induction groups with
  | nil => rfl
  | cons first rest ih => rw [List.flatten_cons, List.length_append, ih]; rfl

theorem write_eq (n : Nat) :
    write n = .ofChars (['-'].intercalate (groupsOf groupLengths n)) := by
  simp [write, groupsOf, groupLengths, digitCount, List.intercalate_cons_cons]

theorem map_length_groupsOf : (groupsOf lengths n).map List.length = lengths := by
  induction lengths with
  | nil => rfl
  | cons count rest ih =>
    rw [groupsOf, List.map_cons, ih]
    simp [hexDigits]

theorem digit_of_groupsOf :
    ∀ group ∈ groupsOf lengths n, ∀ c ∈ group, ∃ digit < 16, c = Nat.digitChar digit := by
  induction lengths with
  | nil => exact fun group member => absurd member List.not_mem_nil
  | cons count rest ih =>
    refine List.forall_mem_cons.2 ⟨fun c member => ?_, ih⟩
    obtain ⟨place, -, rfl⟩ := List.mem_map.1 member
    exact ⟨_, Nat.mod_lt _ (by decide), rfl⟩

theorem groupsOf_valueFrom (are : ∀ group ∈ groups, AreDigits group) (start : Nat) :
    (groupsOf (groups.map List.length) (valueFrom start groups.flatten)).map (List.map Code.char) =
      groups.map (List.map lowerLetter) := by
  induction groups generalizing start with
  | nil => rfl
  | cons first rest ih =>
    rw [List.forall_mem_cons] at are
    have all : AreDigits (first ++ rest.flatten) := by
      intro c member
      rcases List.mem_append.1 member with inside | inside
      · exact are.1 c inside
      · obtain ⟨group, there, inside⟩ := List.mem_flatten.1 inside
        exact are.2 group there c inside
    have head := hexDigits_valueFrom all start
    rw [length_flatten_eq] at head
    rw [List.map_cons, groupsOf, List.flatten_cons, List.map_cons, List.map_cons, head,
      valueFrom_append, ih are.2]

theorem isGrouped_write (n : Nat) : IsGrouped (write n) := by
  refine ⟨_, map_length_groupsOf, fun group inside c member => ?_, write_eq n⟩
  obtain ⟨digit, value, rfl⟩ := digit_of_groupsOf group inside c member
  exact PointId.isHexDigit_digitChar digit value

/-! ### The reader -/

theorem removeAll_of_notMem {mark : Char} {part chars : List Char} (inside : mark ∈ part)
    (free : mark ∉ chars) (fuel : Nat) : removeAll part fuel chars = chars := by
  induction fuel generalizing chars with
  | zero => rfl
  | succ fuel ih =>
    cases chars with
    | nil => rfl
    | cons c rest =>
      have apart : part.isPrefixOf (c :: rest) = false := by
        rw [Bool.eq_false_iff]
        exact fun starts => free ((List.isPrefixOf_iff_prefix.1 starts).subset inside)
      rw [removeAll, apart, ih fun member => free (List.mem_cons_of_mem c member)]
      rfl

theorem digitsOf_groups (are : ∀ group ∈ groups, AreDigits group) :
    digitsOf (['-'].intercalate groups) = groups.flatten := by
  have free : ':' ∉ ['-'].intercalate groups := fun member =>
    forall_mem_intercalate (P := (· ≠ ':')) (by decide) (fun group inside c member =>
      ne_of_mem_hexLetters (are group inside c member) (by decide)) _ member rfl
  have bare : Text.trimWhile isBrace (['-'].intercalate groups) = ['-'].intercalate groups :=
    trimWhile_of_none (forall_mem_intercalate (by decide) fun group inside c member =>
      (plain_hexLetters c (are group inside c member)).2.1)
  rw [digitsOf, removeAll_of_notMem (by decide) free, removeAll_of_notMem (by decide) free, bare]
  refine filter_intercalate (by decide) fun group inside c member => ?_
  exact decide_eq_true (ne_of_mem_hexLetters (are group inside c member) (by decide))

theorem lower_groups (are : ∀ group ∈ groups, AreDigits group) :
    (Text.ofChars (['-'].intercalate groups)).lower =
      ⟨(['-'].intercalate groups).map lowerLetter⟩ := by
  have ascii : ∀ code ∈ (['-'].intercalate groups).map Code.char, Text.isAscii code = true := by
    refine List.forall_mem_map.2 (forall_mem_intercalate (by decide) fun group inside c member => ?_)
    exact (plain_hexLetters c (are group inside c member)).2.2
  rw [Text.lower, Text.ofChars, Text.lowerFrom_of_isAscii ascii, List.map_map]
  rfl

theorem canonical?_of_isGrouped (grouped : IsGrouped text) : canonical? text = some text.lower := by
  obtain ⟨groups, lengths, digits, rfl⟩ := grouped
  have are : ∀ group ∈ groups, AreDigits group := fun group inside c member =>
    mem_hexLetters (digits group inside c member)
  have all : AreDigits groups.flatten := List.forall_mem_flatten.2 are
  have long : groups.flatten.length = 32 := by rw [length_flatten_eq, lengths]; rfl
  have some : groups.flatten ≠ [] := fun none => by simp [none] at long
  have fits : valueFrom 0 groups.flatten < Nat.pow 2 128 := by
    have small := valueFrom_lt all
    rwa [long] at small
  have read : readChars? (['-'].intercalate groups) = .some (valueFrom 0 groups.flatten) := by
    rw [readChars?, digitsOf_groups are, if_pos long, number?_digits some all]
    dsimp only
    rw [if_pos ⟨Int.natCast_nonneg _, by exact_mod_cast fits⟩, Int.toNat_natCast]
  have written := groupsOf_valueFrom are 0
  rw [lengths] at written
  rw [canonical?, read?, Text.chars?_ofChars, Option.bind_some, read, Option.map_some, write_eq,
    lower_groups are, Text.ofChars, map_intercalate, map_intercalate, written]
  rfl

/-! ### The grammar -/

theorem ascii_of_lowerLetter {c : Char} (below : (lowerLetter c).number < 'g'.toNat) :
    c.toNat < 128 := by
  cases ascii : Text.isAscii c with
  | true => exact of_decide_eq_true ascii
  | false => exact absurd below (Nat.not_lt.2 (Text.le_number_lowerCode ascii))

theorem eq_of_lowerLetter {c : Char} (hyphen : lowerLetter c = lowerLetter '-') : c = '-' := by
  have each : ∀ n < 128, lowerLetter (Char.ofNat n) = lowerLetter '-' → Char.ofNat n = '-' := by
    decide +kernel
  have small : c.toNat < 128 := ascii_of_lowerLetter (by rw [hyphen]; decide)
  rw [← Char.ofNat_toNat c] at hyphen ⊢
  exact each _ small hyphen

theorem isHexDigit_of_lowerLetter {c : Char} {digit : Nat} (value : digit < 16)
    (lowered : lowerLetter c = .char digit.digitChar) : PointId.isHexDigit c = true := by
  have each : ∀ n < 128, ∀ digit < 16, lowerLetter (Char.ofNat n) = .char (Nat.digitChar digit) →
      PointId.isHexDigit (Char.ofNat n) = true := by
    decide +kernel
  have below : ∀ digit < 16, (Code.char (Nat.digitChar digit)).number < 'g'.toNat := by decide
  have small : c.toNat < 128 := ascii_of_lowerLetter (by rw [lowered]; exact below digit value)
  rw [← Char.ofNat_toNat c] at lowered ⊢
  exact each _ small digit value lowered

theorem below_g_write (n : Nat) : ∀ code ∈ (write n).codes, code.number < 'g'.toNat := by
  have below : ∀ digit < 16, (Code.char (Nat.digitChar digit)).number < 'g'.toNat := by decide
  rw [write_eq]
  refine List.forall_mem_map.2 (forall_mem_intercalate (by decide) fun group inside c member => ?_)
  obtain ⟨digit, value, rfl⟩ := digit_of_groupsOf group inside c member
  exact below digit value

theorem isGrouped_of_canonical? (same : canonical? text = some text.lower) : IsGrouped text := by
  obtain ⟨n, read, written⟩ := Option.map_eq_some_iff.1 same
  obtain ⟨chars, whole, -⟩ := Option.bind_eq_some_iff.1 read
  obtain rfl : text = .ofChars chars := Text.codes_inj (Text.codes_of_chars? whole)
  -- Only signs of ASCII before `g` are written, so the text has none beyond ASCII: each of its
  -- characters was lowered by itself.
  have below := below_g_write n
  rw [written] at below
  have ascii := Text.isAscii_of_lowerFrom below
  have lowered : chars.map lowerLetter =
      [lowerLetter '-'].intercalate ((groupsOf groupLengths n).map (List.map Code.char)) := by
    have codes := congrArg Text.codes written
    rw [Text.lower, Text.lowerFrom_of_isAscii ascii, write_eq] at codes
    simp only [Text.ofChars, map_intercalate, List.map_map] at codes
    exact codes.symm
  -- Nothing else is lowered to a hyphen, so the text has its hyphens where they are written.
  obtain ⟨groups, rfl, each⟩ := groups_of_map (fun c => eq_of_lowerLetter) lowered
  refine ⟨groups, ?_, fun group inside c member => ?_, rfl⟩
  · have lengths := congrArg (List.map List.length) each
    simp only [List.map_map, Function.comp_def, List.length_map] at lengths
    exact lengths.trans map_length_groupsOf
  · have image := List.mem_map_of_mem (f := List.map lowerLetter) inside
    rw [each] at image
    obtain ⟨piece, there, same⟩ := List.mem_map.1 image
    have letter := List.mem_map_of_mem (f := lowerLetter) member
    rw [← same] at letter
    obtain ⟨d, stands, agrees⟩ := List.mem_map.1 letter
    obtain ⟨digit, value, rfl⟩ := digit_of_groupsOf piece there d stands
    exact isHexDigit_of_lowerLetter value agrees.symm

theorem lower_write (n : Nat) : (write n).lower = write n := by
  have each : ∀ digit < 16, lowerLetter (Nat.digitChar digit) = .char (Nat.digitChar digit) := by
    decide
  have lowered : (['-'].intercalate (groupsOf groupLengths n)).map lowerLetter =
      (['-'].intercalate (groupsOf groupLengths n)).map Code.char := by
    refine List.map_congr_left (forall_mem_intercalate (by decide) fun group inside c member => ?_)
    obtain ⟨digit, value, rfl⟩ := digit_of_groupsOf group inside c member
    exact each digit value
  rw [write_eq, lower_groups fun group inside c member => ?_, lowered]
  · rfl
  · obtain ⟨digit, value, rfl⟩ := digit_of_groupsOf group inside c member
    exact mem_hexLetters (PointId.isHexDigit_digitChar digit value)

/-- A spelling of an id that is accepted: its lower-case form is the one way of writing it. -/
def Spells (text : Text) : Prop := canonical? text = some text.lower

theorem spells_iff : Spells text ↔ IsGrouped text :=
  ⟨isGrouped_of_canonical?, canonical?_of_isGrouped⟩

theorem isEmpty_of_spells (spells : Spells text) : text.isEmpty = false := by
  rw [Bool.eq_false_iff]
  intro none
  have bare : text = ⟨[]⟩ := Text.codes_inj (List.isEmpty_iff.1 none)
  rw [bare] at spells
  cases spells

/-- The lower case of a spelling is a spelling that is its own lower case. -/
theorem spells_lower (spells : Spells text) :
    Spells text.lower ∧ text.lower.lower = text.lower := by
  obtain ⟨n, -, written⟩ := Option.map_eq_some_iff.1 spells
  rw [← written]
  exact ⟨spells_iff.2 (isGrouped_write n), lower_write n⟩

end

/-! ### The check -/

section

variable {R : Type} {field id text : Text} {given : Json R}

theorem check_eq_ok_iff :
    check field given = .ok id ↔
      ∃ text, given = .string text ∧ Spells text ∧ text.lower = id := by
  constructor
  · intro checked
    unfold check at checked
    split at checked
    · rename_i text
      split at checked
      · cases checked
      · split at checked
        · rename_i spells
          exact ⟨text, rfl, spells, Except.ok.inj checked⟩
        · cases checked
    · cases checked
  · rintro ⟨text, rfl, spells, rfl⟩
    rw [check, isEmpty_of_spells spells, if_neg Bool.false_ne_true]
    exact if_pos spells

theorem check_eq_missing_iff : check field given = .error (.idMissing field) ↔
    ∀ text, given = .string text → text.isEmpty = true := by
  cases given with
  | string text =>
    cases none : text.isEmpty with
    | true => simp [check, none]
    | false =>
      simp only [check, none, Json.string.injEq, forall_eq', Bool.false_eq_true, if_false]
      split <;> simp
  | _ => simp [check]

theorem check_eq_malformed_iff : check field given = .error (.idMalformed field given) ↔
    ∃ text, given = .string text ∧ text.isEmpty = false ∧ ¬ Spells text := by
  cases given with
  | string text =>
    cases none : text.isEmpty with
    | true => simp [check, none]
    | false =>
      simp only [check, none, Spells, Json.string.injEq, Bool.false_eq_true, if_false]
      split <;> simp_all
  | _ => simp [check]

/-- An id is accepted if it is a text of hexadecimal digits in their groups, and is then returned
in lower case. A value that is no text, or an empty one, is reported as missing and any other text
as malformed. What is returned is accepted as it stands. -/
theorem check_exactly (field : Text) (given : Json R) :
    (∀ id, check field given = .ok id ↔
      ∃ text, given = .string text ∧ IsGrouped text ∧ text.lower = id) ∧
    (check field given = .error (.idMissing field) ↔
      ∀ text, given = .string text → text.isEmpty = true) ∧
    (check field given = .error (.idMalformed field given) ↔
      ∃ text, given = .string text ∧ text.isEmpty = false ∧ ¬ IsGrouped text) ∧
    ∀ id, check field given = .ok id → check field (.string id : Json R) = .ok id := by
  simp only [← spells_iff]
  refine ⟨fun id => check_eq_ok_iff, check_eq_missing_iff, check_eq_malformed_iff,
    fun id accepted => ?_⟩
  obtain ⟨text, -, spells, rfl⟩ := check_eq_ok_iff.1 accepted
  obtain ⟨again, same⟩ := spells_lower spells
  exact check_eq_ok_iff.2 ⟨_, rfl, again, same⟩

end

end PostId

end PersonalFeed
