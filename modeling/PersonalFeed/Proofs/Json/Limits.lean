import PersonalFeed.Proofs.Json.Grammar

/-!
The limits of the reader. It fails for a number with too many digits only on a text with that many
digits in a row, and for a nesting that is too deep only on a text in which that many lists and
records are open at once. Whatever it reads out of a text, the text stands for.
-/

set_option autoImplicit false

namespace PersonalFeed.Json

def HasLongNumber (text : List Char) : Prop :=
  ∃ digits, digits <:+: text ∧ (∀ c ∈ digits, c.isDigit = true) ∧ digitLimit < digits.length

/-- How many lists and records are open at once at most from a place in a text on, with some of them
open there and inside a quoted text or not. -/
def deepest : Bool → Nat → List Char → Nat
  | _, _, [] => 0
  | true, level, '\\' :: _ :: rest => deepest true level rest
  | true, level, c :: rest => deepest (c ≠ '"') level rest
  | false, level, c :: rest =>
    if c = '"' then deepest true level rest
    else if c = '[' ∨ c = '\x7b' then max (level + 1) (deepest false (level + 1) rest)
    else if c = ']' ∨ c = '\x7d' then deepest false (level - 1) rest
    else deepest false level rest

section

variable {text middle rest : List Char} {level : Nat}

@[simp] theorem deepest_quote : deepest false level ('"' :: rest) = deepest true level rest := by
  simp [deepest]

@[simp] theorem deepest_open {c : Char} (opens : c = '[' ∨ c = '\x7b') :
    deepest false level (c :: rest) = max (level + 1) (deepest false (level + 1) rest) := by
  rcases opens with rfl | rfl <;> simp [deepest]

@[simp] theorem deepest_close {c : Char} (closes : c = ']' ∨ c = '\x7d') :
    deepest false level (c :: rest) = deepest false (level - 1) rest := by
  rcases closes with rfl | rfl <;> simp [deepest]

@[simp] theorem deepest_endQuote : deepest true level ('"' :: rest) = deepest false level rest := by
  simp [deepest]

@[simp] theorem deepest_escape {c : Char} :
    deepest true level ('\\' :: c :: rest) = deepest true level rest := by
  simp [deepest]

theorem deepest_quoted {c : Char} (other : c ≠ '"' ∧ c ≠ '\\') :
    deepest true level (c :: rest) = deepest true level rest := by
  rw [deepest]
  · simp [other.1]
  · exact fun _ _ same => absurd same other.2

def IsFlat (c : Char) : Prop := c ≠ '"' ∧ c ≠ '[' ∧ c ≠ ']' ∧ c ≠ '\x7b' ∧ c ≠ '\x7d'

theorem deepest_flat {c : Char} (flat : IsFlat c) :
    deepest false level (c :: rest) = deepest false level rest := by
  obtain ⟨quote, open_, close, start, stop⟩ := flat
  simp [deepest, quote, open_, close, start, stop]

/-- A text goes on to a part of it, where as much is open as at its start but for what is inside of
some lists and records that end between the two. -/
structure Leads (inner : Nat) (text rest : List Char) : Prop where
  suffix : rest <:+ text
  level : ∀ level, deepest false level rest ≤ deepest false (level + inner) text

theorem Leads.refl (text : List Char) : Leads 0 text text :=
  ⟨List.suffix_refl _, fun _ => Nat.le_refl _⟩

theorem Leads.trans {inner : Nat} (first : Leads 0 text middle) (later : Leads inner middle rest) :
    Leads inner text rest :=
  ⟨later.suffix.trans first.suffix,
    fun level => Nat.le_trans (later.level level) (first.level (level + inner))⟩

theorem leads_flat {c : Char} (flat : IsFlat c) (rest : List Char) : Leads 0 (c :: rest) rest :=
  ⟨List.suffix_cons _ _, fun _ => Nat.le_of_eq (deepest_flat flat).symm⟩

theorem leads_append {part : List Char} (flat : ∀ c ∈ part, IsFlat c) (rest : List Char) :
    Leads 0 (part ++ rest) rest := by
  induction part with
  | nil => exact .refl rest
  | cons c part ih =>
    apply (leads_flat (flat c List.mem_cons_self) (part ++ rest)).trans
    exact ih fun other inside => flat other (List.mem_cons_of_mem _ inside)

theorem isFlat_of_isDigit {c : Char} (digit : c.isDigit = true) : IsFlat c := by
  refine ⟨?_, ?_, ?_, ?_, ?_⟩ <;> rintro rfl <;> cases digit

theorem isFlat_of_isSpace {c : Char} (blank : isSpace c = true) : IsFlat c := by
  refine ⟨?_, ?_, ?_, ?_, ?_⟩ <;> rintro rfl <;> cases blank

theorem leads_blanks (blanks : Blanks text rest) : Leads 0 text rest := by
  induction blanks with
  | none rest => exact .refl rest
  | more blank _ ih => exact (leads_flat (isFlat_of_isSpace blank) _).trans ih

theorem hexValue?_other {c : Char} {value : Nat} (digit : hexValue? c = some value) :
    c ≠ '"' ∧ c ≠ '\\' := by
  constructor <;> rintro rfl <;> cases digit

theorem deepest_of_quoted {units : List Nat} (quoted : Quoted text units rest) (level : Nat) :
    deepest true level text = deepest false level rest := by
  induction quoted with
  | close rest => exact deepest_endQuote
  | unit first next after last _ ih =>
    rw [deepest_escape, deepest_quoted (hexValue?_other first),
      deepest_quoted (hexValue?_other next), deepest_quoted (hexValue?_other after),
      deepest_quoted (hexValue?_other last), ih]
  | short _ _ ih => rw [deepest_escape, ih]
  | plain _ other _ ih => rw [deepest_quoted other, ih]

theorem suffix_of_quoted {units : List Nat} (quoted : Quoted text units rest) : rest <:+ text := by
  induction quoted with
  | close rest => exact List.suffix_cons _ _
  | unit _ _ _ _ _ ih => exact ih.trans ⟨[_, _, _, _, _, _], rfl⟩
  | short _ _ ih => exact ih.trans ⟨[_, _], rfl⟩
  | plain _ _ _ ih => exact ih.trans (List.suffix_cons _ _)

theorem leads_quoted {units : List Nat} (quoted : Quoted text units rest) :
    Leads 0 ('"' :: text) rest where
  suffix := (suffix_of_quoted quoted).trans (List.suffix_cons _ _)
  level level := Nat.le_of_eq (deepest_quote.trans (deepest_of_quoted quoted level)).symm

theorem leads_fraction {digits : List Char} (fraction : Fraction text digits rest) :
    Leads 0 text rest := by
  cases fraction with
  | none => exact .refl _
  | some rest _ decimal =>
    apply (leads_flat (by unfold IsFlat; decide) _).trans
    exact leads_append (fun c inside => isFlat_of_isDigit (decimal c inside)) rest

theorem leads_exponent {exponent : Option Int} (scaled : Exponent text exponent rest) :
    Leads 0 text rest := by
  cases scaled with
  | none => exact .refl _
  | some rest marked signs _ decimal =>
    have digits := leads_append (fun c inside => isFlat_of_isDigit (decimal c inside)) rest
    apply Leads.trans (leads_flat _ _)
    · apply Leads.trans _ digits
      apply leads_append
      cases signs <;> simp [IsFlat]
    · rcases marked with rfl | rfl <;> simp [IsFlat]

end

variable {R : Type} [Numeral R] {text rest : List Char}

theorem leads_number {negative : Bool} {value : Json R}
    (number : Number negative text value rest) : Leads 0 text rest := by
  have flat {digits : List Char} (whole : IsNumeral digits) : ∀ c ∈ digits, IsFlat c :=
    fun c inside => isFlat_of_isDigit (whole.decimal c inside)
  cases number with
  | int _ rest whole => exact leads_append (flat whole) rest
  | real _ whole fractional scaled =>
    apply (leads_append (flat whole) _).trans
    exact (leads_fraction fractional).trans (leads_exponent scaled)

def Phrase.inner : Phrase R → Nat
  | value _ => 0
  | items _ | fields _ => 1

theorem isFlat_comma : IsFlat ',' := by simp [IsFlat]

theorem isFlat_colon : IsFlat ':' := by simp [IsFlat]

omit [Numeral R] in
theorem leads_separator {c : Char} {next : List Char} (flat : IsFlat c)
    (before : Blanks text (c :: next)) (after : Blanks next rest) : Leads 0 text rest :=
  (leads_blanks before).trans ((leads_flat flat next).trans (leads_blanks after))

theorem leads_end {c : Char} (closes : c = ']' ∨ c = '\x7d') (ends : Blanks text (c :: rest)) :
    Leads 1 text rest := by
  apply (leads_blanks ends).trans
  exact ⟨List.suffix_cons _ _, fun level => by simp [deepest_close closes]⟩

theorem Leads.opened {c : Char} (opens : c = '[' ∨ c = '\x7b') (inside : Leads 1 text rest) :
    Leads 0 (c :: text) rest where
  suffix := inside.suffix.trans (List.suffix_cons _ _)
  level level := by
    rw [deepest_open opens]
    exact Nat.le_trans (inside.level level) (Nat.le_max_right _ _)

/-- A part of a text leaves as much open as it found, but for what it is the rest of. -/
theorem leads_of_spells {phrase : Phrase R} (spells : Spells text phrase rest) :
    Leads phrase.inner text rest := by
  -- A bracket that opens is closed by the last item or field, and between them each part leads as
  -- far as its own rest.
  induction spells with
  | null rest | true rest | false rest | undefined rest | infinite rest | infinitesimal rest =>
    exact leads_append (by simp [IsFlat]) rest
  | number numeral => exact leads_number numeral
  | negative numeral => exact (leads_flat (by simp [IsFlat]) _).trans (leads_number numeral)
  | string quoted => exact leads_quoted quoted
  | emptyArray bare => exact .opened (.inl rfl) (leads_end (.inl rfl) bare)
  | emptyObject bare => exact .opened (.inr rfl) (leads_end (.inr rfl) bare)
  | array spaced _ ih => exact .opened (.inl rfl) ((leads_blanks spaced).trans ih)
  | object spaced _ ih => exact .opened (.inr rfl) ((leads_blanks spaced).trans ih)
  | lastItem _ close ih => exact ih.trans (leads_end (.inl rfl) close)
  | item _ comma spaced _ first later =>
    exact first.trans ((leads_separator isFlat_comma comma spaced).trans later)
  | lastField named colon spaced _ close ih =>
    apply (leads_quoted named).trans
    apply (leads_separator isFlat_colon colon spaced).trans
    exact ih.trans (leads_end (.inr rfl) close)
  | field named colon spaced _ comma parted _ first later =>
    apply (leads_quoted named).trans
    apply (leads_separator isFlat_colon colon spaced).trans
    exact first.trans ((leads_separator isFlat_comma comma parted).trans later)

def Blames (depth : Nat) (text : List Char) : ReadError → Prop
  | .malformed => True
  | .oversized => HasLongNumber text
  | .tooDeep => ∀ level, level + depth < deepest false level text

theorem Blames.earlier {depth : Nat} {flaw : ReadError} (leads : Leads 0 text rest)
    (blames : Blames depth rest flaw) : Blames depth text flaw := by
  cases flaw with
  | malformed => trivial
  | oversized =>
    obtain ⟨digits, inside, decimal, long⟩ := blames
    exact ⟨digits, inside.trans leads.suffix.isInfix, decimal, long⟩
  | tooDeep => exact fun level => Nat.lt_of_lt_of_le (blames level) (leads.level level)

def Reports {α : Type} (depth : Nat) (text : List Char) (phrase : α → Phrase R) :
    Except ReadError (α × List Char) → Prop
  | .ok (found, rest) => Spells text (phrase found) rest
  | .error flaw => Blames depth text flaw

theorem Blames.opened {depth : Nat} {flaw : ReadError} {c : Char} (opens : c = '[' ∨ c = '\x7b')
    (left : depth ≠ 0) (leads : Leads 0 text rest) (blames : Blames (depth - 1) rest flaw) :
    Blames depth (c :: text) flaw := by
  cases flaw with
  | malformed => trivial
  | oversized =>
    obtain ⟨digits, inside, decimal, long⟩ := blames
    have part := inside.trans (leads.suffix.trans (List.suffix_cons c text)).isInfix
    exact ⟨digits, part, decimal, long⟩
  | tooDeep =>
    intro level
    have deep := blames (level + 1)
    have later : _ ≤ deepest false (level + 1) text := leads.level (level + 1)
    have counted := Nat.pos_of_ne_zero left
    rw [deepest_open opens]
    omega

theorem blames_tooDeep {c : Char} (opens : c = '[' ∨ c = '\x7b') (text : List Char) :
    Blames 0 (c :: text) .tooDeep := by
  intro level
  rw [deepest_open opens]
  omega

/-- What is read in a part of a text may fail there, and what is read after it later on. -/
theorem Reports.bind {α β : Type} {depth : Nat} {part : List Char} {phrase : α → Phrase R}
    {other : β → Phrase R} {first : Except ReadError (α × List Char)}
    {next : α × List Char → Except ReadError (β × List Char)} (leads : Leads 0 text part)
    (reads : Reports depth part phrase first)
    (later : ∀ found rest, Spells part (phrase found) rest →
      Reports depth text other (next (found, rest))) :
    Reports depth text other (first >>= next) := by
  cases first with
  | error flaw => exact Blames.earlier leads reads
  | ok pair => exact later pair.1 pair.2 reads

theorem Reports.bindOpened {α β : Type} {depth : Nat} {c : Char} {part : List Char}
    {phrase : α → Phrase R} {other : β → Phrase R} {first : Except ReadError (α × List Char)}
    {next : α × List Char → Except ReadError (β × List Char)} (opens : c = '[' ∨ c = '\x7b')
    (some : depth ≠ 0) (leads : Leads 0 text part) (reads : Reports (depth - 1) part phrase first)
    (later : ∀ found rest, Spells part (phrase found) rest →
      Reports depth (c :: text) other (next (found, rest))) :
    Reports depth (c :: text) other (first >>= next) := by
  cases first with
  | error flaw => exact Blames.opened opens some leads reads
  | ok pair => exact later pair.1 pair.2 reads

theorem reports_number {negative : Bool} {depth : Nat} {text whole : List Char}
    (leads : Leads 0 whole text)
    (spells : ∀ (value : Json R) rest, Number negative text value rest →
      Spells whole (.value value) rest) :
    Reports depth whole Phrase.value
      (readNumber negative text : Except ReadError (Json R × List Char)) := by
  cases read : (readNumber negative text : Except ReadError (Json R × List Char)) with
  | ok found => exact spells _ _ (number_of_readNumber read)
  | error flaw =>
    apply Blames.earlier leads
    rw [readNumber_eq] at read
    split at read
    · cases read
      trivial
    rename_i present
    dsimp only at read
    split at read
    · split at read
      -- The only other flaw is a numeral of too many digits, and these stand in the text.
      · rename_i long
        cases read
        have digits := isNumeral_leadingDigits (by simpa using present)
        have part : leadingDigits text <+: text := ⟨_, leadingDigits_append text⟩
        exact ⟨_, part.isInfix, digits.decimal, long⟩
      · cases read
    · cases read

structure IsFaithful (R : Type) [Numeral R] (fuel : Nat) : Prop where
  values : ∀ depth text, Reports depth text Phrase.value
    (readValue fuel depth text : Except ReadError (Json R × List Char))
  items : ∀ depth text, Reports depth text Phrase.items
    (readItems fuel depth text : Except ReadError (List (Json R) × List Char))
  fields : ∀ depth text, Reports depth text Phrase.fields
    (readFields fuel depth text : Except ReadError (List (Text × Json R) × List Char))

section

variable {fuel : Nat} (faithful : IsFaithful R fuel) (depth : Nat) (text : List Char)

include faithful

theorem reports_readValue : Reports depth text Phrase.value
    (readValue (fuel + 1) depth text : Except ReadError (Json R × List Char)) := by
  unfold readValue
  split
  · split
    · rename_i read
      exact .string (quoted_of_readCodes read)
    · trivial
  · rename_i text
    have spaced := blanks_skipSpace text
    split
    -- No depth is left for what the bracket opens.
    · rename_i none
      exact none ▸ blames_tooDeep (.inl rfl) text
    · rename_i some
      split
      · rename_i bare
        exact .emptyArray (bare ▸ spaced)
      · apply Reports.bindOpened (.inl rfl) some (leads_blanks spaced) (faithful.items _ _)
        exact fun items rest listed => Spells.array spaced listed
  · rename_i text
    have spaced := blanks_skipSpace text
    split
    · rename_i none
      exact none ▸ blames_tooDeep (.inr rfl) text
    · rename_i some
      split
      · rename_i bare
        exact .emptyObject (bare ▸ spaced)
      · apply Reports.bindOpened (.inr rfl) some (leads_blanks spaced) (faithful.fields _ _)
        exact fun fields rest listed => Spells.object spaced listed
  · exact .null _
  · exact .true _
  · exact .false _
  · exact .undefined _
  · exact .infinite _
  · exact .infinitesimal _
  · apply reports_number (leads_flat (by simp [IsFlat]) _)
    exact fun value rest number => .negative number
  · apply reports_number (.refl text)
    exact fun value rest number => .number number

theorem reports_readItems : Reports depth text Phrase.items
    (readItems (fuel + 1) depth text : Except ReadError (List (Json R) × List Char)) := by
  unfold readItems
  apply Reports.bind (.refl text) (faithful.values depth text)
  intro item after first
  have spaced := blanks_skipSpace after
  dsimp only
  split
  · rename_i close
    exact .lastItem first (close ▸ spaced)
  · rename_i next comma
    have goesOn := blanks_skipSpace next
    have leads := (leads_of_spells first).trans
      (leads_separator isFlat_comma (comma ▸ spaced) goesOn)
    apply Reports.bind leads (faithful.items depth _)
    exact fun items rest later => .item first (comma ▸ spaced) goesOn later
  · trivial

theorem reports_readFields : Reports depth text Phrase.fields
    (readFields (fuel + 1) depth text : Except ReadError (List (Text × Json R) × List Char)) := by
  unfold readFields
  split
  · rename_i text
    split
    · trivial
    · rename_i units middle read
      have named := quoted_of_readCodes read
      have spaced := blanks_skipSpace middle
      dsimp only
      split
      · rename_i next colon
        have valued := blanks_skipSpace next
        -- What can be wrong from here on is wrong behind the name and its colon.
        have leads := (leads_quoted named).trans
          (leads_separator isFlat_colon (colon ▸ spaced) valued)
        apply Reports.bind leads (faithful.values depth _)
        intro value after first
        have ends := blanks_skipSpace after
        dsimp only
        split
        · rename_i close
          exact .lastField named (colon ▸ spaced) valued first (close ▸ ends)
        · rename_i other comma
          have parted := blanks_skipSpace other
          have goesOn := leads.trans ((leads_of_spells first).trans
            (leads_separator isFlat_comma (comma ▸ ends) parted))
          apply Reports.bind goesOn (faithful.fields depth _)
          exact fun fields rest later =>
            .field named (colon ▸ spaced) valued first (comma ▸ ends) parted later
        · trivial
      · trivial
  · trivial

end

theorem isFaithful_read (fuel : Nat) : IsFaithful R fuel := by
  induction fuel with
  | zero => exact ⟨fun _ _ => trivial, fun _ _ => trivial, fun _ _ => trivial⟩
  | succ fuel ih =>
    exact ⟨reports_readValue ih, reports_readItems ih, reports_readFields ih⟩

theorem denotes_of_parse {text : List Char} {value : Json R} (read : parse text = .ok value) :
    Denotes text value := by
  obtain ⟨⟨found, rest⟩, first, ended⟩ := ok_of_bind read
  have told := (isFaithful_read (R := R) (2 * text.length + 2)).values depthLimit (skipSpace text)
  rw [first] at told
  have ends := blanks_skipSpace rest
  dsimp only at ended
  split at ended
  · rename_i bare
    cases ended
    rw [List.isEmpty_iff.1 bare] at ends
    exact ⟨_, rest, blanks_skipSpace text, told, ends⟩
  · cases ended

/-- The reader fails for one of its limits only on a text that is beyond it. -/
theorem blames_of_parse {text : List Char} {flaw : ReadError}
    (read : (parse text : Except ReadError (Json R)) = .error flaw) :
    Blames depthLimit text flaw := by
  have told := (isFaithful_read (R := R) (2 * text.length + 2)).values depthLimit (skipSpace text)
  rw [parse] at read
  cases first : (readValue (2 * text.length + 2) depthLimit (skipSpace text) :
      Except ReadError (Json R × List Char)) with
  | error cause =>
    rw [first] at told read
    cases read
    exact Blames.earlier (leads_blanks (blanks_skipSpace text)) told
  | ok found =>
    rw [first] at read
    change (if (skipSpace found.2).isEmpty then _ else _) = _ at read
    split at read <;> cases read
    trivial

end PersonalFeed.Json
