import PersonalFeed.Proofs.Lowering
import PersonalFeed.Proofs.Text
import PersonalFeed.Topic

/-!
Which words of a text are its topics. A word is described by where it stands in the lowered text
and not by the scan that finds it.
-/

set_option autoImplicit false

namespace PersonalFeed

/-- A stretch of a text that is a longest run of alphanumeric characters. -/
structure IsRun (before letters after : List Code) : Prop where
  nonempty : letters ≠ []
  inside : ∀ code ∈ letters, Text.isAlphanumeric code = true
  starts : ∀ code ∈ before.getLast?, Text.isAlphanumeric code = false
  ends : ∀ code ∈ after.head?, Text.isAlphanumeric code = false

section

variable {α : Type} {P : α → List α → Prop} {p : α → Bool} {first : α} {rest taken : List α}

theorem exists_place_cons :
    (∃ before place after, first :: rest = before ++ place :: after ∧ P place after) ↔
      P first rest ∨ ∃ before place after, rest = before ++ place :: after ∧ P place after := by
  constructor
  · rintro ⟨before, place, after, parts, holds⟩
    cases before with
    | nil =>
      obtain ⟨rfl, rfl⟩ := List.cons.inj parts
      exact .inl holds
    | cons _ before => exact .inr ⟨before, place, after, (List.cons.inj parts).2, holds⟩
  · rintro (holds | ⟨before, place, after, rfl, holds⟩)
    · exact ⟨[], first, rest, rfl, holds⟩
    · exact ⟨first :: before, place, after, rfl, holds⟩

theorem takeWhile_eq_iff : rest.takeWhile p = taken ↔
    ∃ after, rest = taken ++ after ∧ (∀ x ∈ taken, p x = true) ∧ ∀ x ∈ after.head?, p x = false := by
  constructor
  · rintro rfl
    refine ⟨rest.dropWhile p, List.takeWhile_append_dropWhile.symm,
      List.all_eq_true.1 List.all_takeWhile, fun x head => ?_⟩
    have stopped := List.head?_dropWhile_not p rest
    rw [head] at stopped
    simpa using stopped
  · rintro ⟨after, rfl, inside, ends⟩
    rw [List.takeWhile_append_of_pos inside]
    cases after with
    | nil => simp
    | cons x after => simp [ends x rfl]

end

namespace Word

variable {word : Word} {run codes : List Code} {tagged : Bool}

structure Follows (word : Word) (code : Code) (rest : List Code) : Prop where
  apart : Text.isAlphanumeric code = false
  letters : rest.takeWhile Text.isAlphanumeric = word.letters.codes
  nonempty : word.letters.codes ≠ []
  tagged : word.tagged = (code == '#')

theorem mem_ofRun : word ∈ ofRun run tagged ↔
    run.reverse = word.letters.codes ∧ word.letters.codes ≠ [] ∧ word.tagged = tagged := by
  obtain ⟨⟨letters⟩, mark⟩ := word
  cases run with
  | nil =>
    simp only [ofRun, List.isEmpty_nil, if_true, List.not_mem_nil, List.reverse_nil, false_iff]
    rintro ⟨rfl, nonempty, -⟩
    exact nonempty rfl
  | cons code run =>
    simp only [ofRun, List.isEmpty_cons, Bool.false_eq_true, if_false, List.mem_singleton,
      Word.mk.injEq, Text.mk.injEq]
    constructor
    · rintro ⟨rfl, rfl⟩
      exact ⟨rfl, by simp, rfl⟩
    · rintro ⟨rfl, -, rfl⟩
      exact ⟨rfl, rfl⟩

/-- The scan finds the word it has begun and every word behind a character that is in none. -/
theorem mem_scan : word ∈ scan run tagged codes ↔
    (run.reverse ++ codes.takeWhile Text.isAlphanumeric = word.letters.codes ∧
      word.letters.codes ≠ [] ∧ word.tagged = tagged) ∨
    ∃ before code rest, codes = before ++ code :: rest ∧ word.Follows code rest := by
  induction codes generalizing run tagged with
  | nil => simp [scan, mem_ofRun]
  | cons code rest ih =>
    rw [exists_place_cons]
    cases inside : Text.isAlphanumeric code with
    | true =>
      -- The character goes on with the run, and no word begins right behind it.
      have behind : ¬ word.Follows code rest := fun follows => by
        simpa [inside] using follows.apart
      rw [scan, if_pos inside, ih, List.takeWhile_cons_of_pos inside]
      simp [behind]
    | false =>
      -- The run is over, and what stands right behind the character begins the next one.
      have behind : word.Follows code rest ↔
          rest.takeWhile Text.isAlphanumeric = word.letters.codes ∧ word.letters.codes ≠ [] ∧
            word.tagged = (code == '#') :=
        ⟨fun follows => ⟨follows.letters, follows.nonempty, follows.tagged⟩,
          fun ⟨letters, nonempty, tagged⟩ => ⟨inside, letters, nonempty, tagged⟩⟩
      rw [scan, if_neg (by simp [inside]), List.mem_append, mem_ofRun, ih,
        List.takeWhile_cons_of_neg (by simp [inside]), List.append_nil, List.reverse_nil,
        List.nil_append, behind]

theorem mem_ofText {text : Text} : word ∈ ofText text ↔
    ∃ before after, text.codes = before ++ word.letters.codes ++ after ∧
      IsRun before word.letters.codes after ∧
      word.tagged = (before.getLast? == some (Code.char '#')) := by
  rw [ofText, mem_scan]
  constructor
  · rintro (⟨letters, nonempty, marked⟩ | ⟨before, code, rest, parts, follows⟩)
    · obtain ⟨after, parts, inside, ends⟩ := takeWhile_eq_iff.1 letters
      exact ⟨[], after, parts, ⟨nonempty, inside, by simp, ends⟩, marked⟩
    · obtain ⟨after, rfl, inside, ends⟩ := takeWhile_eq_iff.1 follows.letters
      refine ⟨before ++ [code], after, by simp [parts], ⟨follows.nonempty, inside, ?_, ends⟩, ?_⟩
      · simpa using follows.apart
      · simpa using follows.tagged
  · rintro ⟨before, after, parts, run, marked⟩
    have letters : (word.letters.codes ++ after).takeWhile Text.isAlphanumeric =
        word.letters.codes := takeWhile_eq_iff.2 ⟨after, rfl, run.inside, run.ends⟩
    -- A run starts with the text or behind a character that is no part of a word.
    rcases List.eq_nil_or_concat before with rfl | ⟨before, code, rfl⟩
    · exact .inl ⟨by simpa [parts] using letters, run.nonempty, marked⟩
    · refine .inr ⟨before, code, word.letters.codes ++ after, by simp [parts], ?_, letters,
        run.nonempty, ?_⟩
      · exact run.starts code (by simp)
      · simpa using marked

theorem scan_append {a b : List Code} {code : Code} (apart : Text.isAlphanumeric code = false) :
    scan run tagged (a ++ code :: b) = scan run tagged a ++ scan [] (code == '#') b := by
  induction a generalizing run tagged with
  | nil => simp [scan, apart]
  | cons first rest ih =>
    rw [List.cons_append, scan, scan]
    split
    · exact ih
    · rw [ih, List.append_assoc]

theorem ofText_join (a b : Text) : ofText (a ++ " " ++ b) = ofText a ++ ofText b := by
  have codes : (a ++ " " ++ b).codes = a.codes ++ Code.char ' ' :: b.codes :=
    List.append_assoc ..
  rw [ofText, codes, scan_append (by decide)]
  rfl

end Word

namespace Topic

variable {text word : Text}

/-- A topic is a word that `#` stands right before, or one that says something by itself. -/
def Occurs (word text : Text) : Prop :=
  ∃ before after, text.codes = before ++ word.codes ++ after ∧ IsRun before word.codes after ∧
    (before.getLast? = some (Code.char '#') ∨
      shortestWord ≤ word.length ∧ word ∉ stopWords ∧
        ∃ code ∈ word.codes, Text.isDigit code = false)

theorem isTopic_iff {word : Word} : isTopic word = true ↔
    word.tagged = true ∨ shortestWord ≤ word.letters.length ∧ word.letters ∉ stopWords ∧
      ∃ code ∈ word.letters.codes, Text.isDigit code = false := by
  simp [isTopic, and_assoc]

theorem mem_ofText_iff_word :
    word ∈ ofText text ↔ ∃ tagged, ⟨word, tagged⟩ ∈ Word.ofText text.lower ∧
      isTopic ⟨word, tagged⟩ = true := by
  simp only [ofText, List.mem_eraseDups, List.mem_map, List.mem_filter]
  constructor
  · rintro ⟨⟨letters, tagged⟩, found, rfl⟩
    exact ⟨tagged, found⟩
  · rintro ⟨tagged, found⟩
    exact ⟨⟨word, tagged⟩, found, rfl⟩

theorem mem_ofText_iff : word ∈ ofText text ↔ Occurs word text.lower := by
  simp only [mem_ofText_iff_word, Word.mem_ofText, isTopic_iff]
  constructor
  · rintro ⟨tagged, ⟨before, after, parts, run, rfl⟩, chosen⟩
    exact ⟨before, after, parts, run, by simpa using chosen⟩
  · rintro ⟨before, after, parts, run, chosen⟩
    exact ⟨_, ⟨before, after, parts, run, rfl⟩, by simpa using chosen⟩

example : ofText "Our tag: a##b_c# 42, #42" = List.map .ofString ["tag", "b", "42"] := by decide

theorem lacks_of_occurs {c : Char} (apart : Text.isAlphanumeric c = false)
    (occurs : Occurs word text) : word.Lacks c := by
  obtain ⟨before, after, -, run, -⟩ := occurs
  exact fun member => by simp [run.inside _ member] at apart

theorem nonempty_of_occurs (occurs : Occurs word text) : word.isEmpty = false := by
  obtain ⟨before, after, -, run, -⟩ := occurs
  simpa [Text.isEmpty] using run.nonempty

theorem mem_ofText_join (a b : Text) :
    word ∈ ofText (a ++ " " ++ b) ↔ word ∈ ofText a ∨ word ∈ ofText b := by
  simp only [mem_ofText_iff_word, Text.lower_join, Word.ofText_join, List.mem_append, or_and_right,
    exists_or]

/-- The topics of a text are the words that occur in its lowered form as topics do. None is empty
or has a `#` or a low line in it, and a space between two texts makes no topic and hides none. -/
theorem topics_exactly (text : Text) :
    (∀ word, word ∈ ofText text ↔ Occurs word text.lower) ∧
      (∀ word ∈ ofText text, word.isEmpty = false ∧ word.Lacks '#' ∧ word.Lacks '_') ∧
      ∀ other word, word ∈ ofText (text ++ " " ++ other) ↔
        word ∈ ofText text ∨ word ∈ ofText other := by
  refine ⟨fun word => mem_ofText_iff, fun word member => ?_, fun other word =>
    mem_ofText_join text other⟩
  have occurs := mem_ofText_iff.1 member
  exact ⟨nonempty_of_occurs occurs, lacks_of_occurs (by decide) occurs,
    lacks_of_occurs (by decide) occurs⟩

end Topic

end PersonalFeed
