import PersonalFeed.Text.Ranges

/-!
Texts taken apart at their separators or trimmed at their ends, and the order of texts, in which
lists are sorted by name.
-/

set_option autoImplicit false

namespace PersonalFeed

section

variable {α : Type} {p : α → Bool} {list : List α}

theorem dropWhile_of_none (none : ∀ x ∈ list, p x = false) : list.dropWhile p = list := by
  cases list with
  | nil => rfl
  | cons x rest => exact List.dropWhile_cons_of_neg (by simp [none x List.mem_cons_self])

theorem trimWhile_of_none (none : ∀ x ∈ list, p x = false) : Text.trimWhile p list = list := by
  rw [Text.trimWhile, Text.dropEndWhile, dropWhile_of_none none,
    dropWhile_of_none fun x member => none x (List.mem_reverse.1 member), List.reverse_reverse]

end

section

variable {α : Type} {a a' b b' : List α} {separator : α}

/-- The first separator tells what stands before it from what stands behind it. -/
theorem split_at_first (free : separator ∉ a) (free' : separator ∉ a')
    (same : a ++ separator :: b = a' ++ separator :: b') : a = a' ∧ b = b' := by
  induction a generalizing a' with
  | nil =>
    cases a' with
    | nil => exact ⟨rfl, (List.cons.inj same).2⟩
    | cons first rest =>
      have head := (List.cons.inj same).1
      exact absurd (head ▸ List.mem_cons_self) free'
  | cons first rest ih =>
    cases a' with
    | nil =>
      have head := (List.cons.inj same).1
      exact absurd (head ▸ List.mem_cons_self) free
    | cons first' rest' =>
      obtain ⟨rfl, later⟩ := List.cons.inj same
      rw [List.mem_cons, not_or] at free free'
      obtain ⟨rfl, ends⟩ := ih free.2 free'.2 later
      exact ⟨rfl, ends⟩

theorem split_at_last (free : separator ∉ b) (free' : separator ∉ b')
    (same : a ++ separator :: b = a' ++ separator :: b') : a = a' ∧ b = b' := by
  have turned : b.reverse ++ separator :: a.reverse = b'.reverse ++ separator :: a'.reverse := by
    simpa using congrArg List.reverse same
  obtain ⟨ends, starts⟩ := split_at_first (by simpa using free) (by simpa using free') turned
  exact ⟨List.reverse_inj.1 starts, List.reverse_inj.1 ends⟩

end

namespace Text

def Lacks (text : Text) (c : Char) : Prop := Code.char c ∉ text.codes

instance (text : Text) (c : Char) : Decidable (text.Lacks c) :=
  inferInstanceAs (Decidable (Code.char c ∉ text.codes))

theorem lacks_ofString {s : String} {c : Char} : (ofString s).Lacks c ↔ c ∉ s.toList := by
  simp [Lacks, ofString, ofChars]

theorem codes_inj {a b : Text} (same : a.codes = b.codes) : a = b := by
  cases a
  cases b
  exact congrArg _ same

theorem codes_of_chars? {codes : List Code} {chars : List Char}
    (read : codes.mapM Code.char? = some chars) : codes = chars.map .char := by
  induction codes generalizing chars with
  | nil =>
    cases read
    rfl
  | cons code rest ih =>
    cases code with
    | half index => simp [List.mapM_cons, Code.char?] at read
    | char c =>
      simp only [List.mapM_cons, Code.char?, Option.pure_def, Option.bind_eq_bind,
        Option.bind_some, Option.bind_eq_some_iff] at read
      obtain ⟨later, found, ended⟩ := read
      cases ended
      rw [List.map_cons, ← ih found]

theorem ofString_of_toString? {text : Text} {s : String} (written : text.toString? = some s) :
    ofString s = text := by
  obtain ⟨chars, read, rfl⟩ := Option.map_eq_some_iff.1 written
  refine codes_inj ?_
  simpa [ofString, ofChars] using (codes_of_chars? read).symm

theorem lacks_append {a b : Text} {c : Char} : (a ++ b).Lacks c ↔ a.Lacks c ∧ b.Lacks c := by
  have codes : (a ++ b).codes = a.codes ++ b.codes := rfl
  rw [Lacks, codes, List.mem_append, not_or]
  rfl

theorem lacks_intercalate {separator : Text} {texts : List Text} {c : Char}
    (between : separator.Lacks c) (each : ∀ text ∈ texts, text.Lacks c) :
    (intercalate separator texts).Lacks c := by
  induction texts with
  | nil => exact List.not_mem_nil
  | cons first rest ih =>
    have later := ih fun text member => each text (List.mem_cons_of_mem _ member)
    have head := each first List.mem_cons_self
    cases rest with
    | nil => simpa [Lacks, intercalate] using head
    | cons second rest =>
      simp only [Lacks, intercalate, List.map_cons, List.intercalate_cons_cons, List.mem_append,
        not_or] at later ⊢
      exact ⟨⟨head, between⟩, later⟩

theorem intercalate_cons_cons (separator first second : Text) (rest : List Text) :
    (intercalate separator (first :: second :: rest)).codes =
      first.codes ++ (separator.codes ++ (intercalate separator (second :: rest)).codes) := by
  simp [intercalate, List.intercalate_cons_cons]

theorem intercalate_singleton (separator text : Text) :
    intercalate separator [text] = text := by
  simp [intercalate]

theorem lacks_of_intercalate {separator : Text} {texts : List Text} {c : Char}
    (free : (intercalate separator texts).Lacks c) : ∀ text ∈ texts, text.Lacks c := by
  induction texts with
  | nil => exact fun text member => absurd member List.not_mem_nil
  | cons first rest ih =>
    cases rest with
    | nil =>
      rw [intercalate_singleton] at free
      simpa using free
    | cons second rest =>
      rw [Lacks, intercalate_cons_cons, List.mem_append, List.mem_append, not_or, not_or] at free
      intro text member
      rcases List.mem_cons.1 member with rfl | member
      · exact free.1
      · exact ih free.2.2 text member

theorem toString?_isSome (text : Text) : text.toString?.isSome = text.isWhole := by
  obtain ⟨codes⟩ := text
  simp only [toString?, chars?, isWhole, Option.isSome_map]
  induction codes with
  | nil => rfl
  | cons code rest ih =>
    rw [List.all_cons, ← ih, List.mapM_cons]
    cases code.char? with
    | none => rfl
    | some c => cases rest.mapM Code.char? <;> rfl

@[simp] theorem isWhole_ofString (s : String) : (ofString s).isWhole = true := by
  rw [← toString?_isSome, toString?_ofString]
  rfl

theorem isWhole_append (a b : Text) : (a ++ b).isWhole = (a.isWhole && b.isWhole) :=
  List.all_append

theorem exists_of_isWhole {text : Text} (whole : text.isWhole = true) :
    ∃ s, text.toString? = some s :=
  Option.isSome_iff_exists.1 ((toString?_isSome text).trans whole)

theorem isWhole_intercalate {separator : Text} (between : separator.isWhole = true)
    (texts : List Text) :
    (intercalate separator texts).isWhole = texts.all isWhole := by
  induction texts with
  | nil => rfl
  | cons first rest ih =>
    cases rest with
    | nil => simp [intercalate_singleton]
    | cons second rest =>
      rw [List.all_cons, ← ih, isWhole, intercalate_cons_cons, List.all_append, List.all_append]
      simp only [isWhole] at between ⊢
      rw [between, Bool.true_and]

theorem intercalate_inj {c : Char} {texts others : List Text}
    (free : ∀ text ∈ texts, text.Lacks c) (free' : ∀ text ∈ others, text.Lacks c)
    (some : texts ≠ []) (some' : others ≠ [])
    (same : intercalate ⟨[.char c]⟩ texts = intercalate ⟨[.char c]⟩ others) : texts = others := by
  -- A single text has no separator, so it cannot be two texts or more.
  have apart (first second third : Text) (rest : List Text) (lacks : first.Lacks c) :
      intercalate ⟨[.char c]⟩ [first] ≠ intercalate ⟨[.char c]⟩ (second :: third :: rest) := by
    intro same
    apply lacks
    have codes := congrArg Text.codes same
    rw [intercalate_singleton, intercalate_cons_cons] at codes
    rw [codes]
    simp
  induction texts generalizing others with
  | nil => exact absurd rfl some
  | cons first rest ih =>
    obtain ⟨other, others, rfl⟩ := List.exists_cons_of_ne_nil some'
    cases rest with
    | nil =>
      cases others with
      | nil => simpa [intercalate_singleton] using same
      | cons next later =>
        exact absurd same (apart first other next later (free first List.mem_cons_self))
    | cons second rest =>
      cases others with
      | nil =>
        exact absurd same.symm (apart other first second rest (free' other List.mem_cons_self))
      | cons next later =>
        have codes := congrArg Text.codes same
        rw [intercalate_cons_cons, intercalate_cons_cons] at codes
        obtain ⟨heads, tails⟩ := split_at_first (free first List.mem_cons_self)
          (free' other List.mem_cons_self) codes
        rw [codes_inj heads, ih (fun text member => free text (List.mem_cons_of_mem _ member))
          (fun text member => free' text (List.mem_cons_of_mem _ member)) (by simp) (by simp)
          (codes_inj tails)]

theorem lt_irrefl (a : Text) : ¬ a < a := List.lt_irrefl _

theorem lt_trans {a b c : Text} (first : a < b) (second : b < c) : a < c :=
  List.lt_trans first second

theorem not_lt_trans {a b c : Text} (first : ¬ a < b) (second : ¬ b < c) : ¬ a < c :=
  @List.le_trans Nat _ _ _ _ (c.codes.map Code.number) (b.codes.map Code.number)
    (a.codes.map Code.number) second first

theorem eq_of_not_lt {a b : Text} (first : ¬ a < b) (second : ¬ b < a) : a = b := by
  have same : a.codes.map Code.number = b.codes.map Code.number :=
    List.le_antisymm second first
  refine codes_inj ((List.map_inj_right fun x y equal => ?_).1 same)
  rw [← Code.ofNumber_number x, ← Code.ofNumber_number y, equal]

end Text

end PersonalFeed
