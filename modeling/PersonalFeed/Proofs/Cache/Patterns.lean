import PersonalFeed.Cache.Store
import PersonalFeed.Proofs.Cache.Keys

/-!
Patterns of keys select the keys they are made for. A root and an identity without any sign of a
pattern stand for themselves, byte by byte, and a star takes whatever parts follow.
-/

set_option autoImplicit false

namespace PersonalFeed

namespace Glob

def special : List Char := ['*', '?', '[', ']', '\\']

theorem readAtoms_plain {c : Char} (plain : c ∉ special) (fuel : Nat) (rest : List Char) :
    readAtoms (fuel + 1) (c :: rest) = .one c :: readAtoms fuel rest := by
  simp only [special, List.mem_cons, List.not_mem_nil, or_false, not_or] at plain
  rw [readAtoms] <;> simp_all

theorem parse_append {text : List Char} (plain : ∀ c ∈ text, c ∉ special) (rest : List Char) :
    parse (text ++ rest) = text.map .one ++ parse rest := by
  induction text with
  | nil => rfl
  | cons c text ih =>
    have later := ih fun other member => plain other (List.mem_cons_of_mem _ member)
    unfold parse at later ⊢
    rw [List.cons_append, List.length_cons, readAtoms_plain (plain c List.mem_cons_self), later]
    rfl

theorem matches_literal {atoms : List Atom} {rest : List Char} (text : List Char)
    (later : Matches atoms rest) : Matches (text.map .one ++ atoms) (text ++ rest) := by
  induction text with
  | nil => exact later
  | cons c text ih => exact .one ih

theorem split_of_matches {atoms : List Atom} (text : List Char) {key : List Char}
    (matched : Matches (text.map .one ++ atoms) key) :
    ∃ rest, key = text ++ rest ∧ Matches atoms rest := by
  induction text generalizing key with
  | nil => exact ⟨key, rfl, matched⟩
  | cons c text ih =>
    cases matched with
    | one later =>
      obtain ⟨rest, rfl, matched⟩ := ih later
      exact ⟨rest, rfl, matched⟩

theorem matches_many (text : List Char) : Matches [.many] text := by
  have all : Matches [.many] (text ++ []) := .many .empty
  rwa [List.append_nil] at all

theorem bytesOf_inj {s t : String} (same : bytesOf s = bytesOf t) : s = t := by
  have byte (b c : UInt8) (same : Char.ofNat b.toNat = Char.ofNat c.toNat) : b = c := by
    have small (b : UInt8) : (Char.ofNat b.toNat).toNat = b.toNat := by
      have valid : b.toNat.isValidChar := .inl (by have := b.toNat_lt; omega)
      rw [Char.ofNat, dif_pos valid]
      rfl
    rw [← UInt8.toNat_inj, ← small b, same, small c]
  have bytes : s.toUTF8.data.toList = t.toUTF8.data.toList :=
    (List.map_inj_right byte).1 same
  exact String.toByteArray_inj.1 (ByteArray.ext (Array.toList_inj.1 bytes))

end Glob

namespace Text

/-- The bytes of a place, each as the character of its number; a half has none. -/
def bytesOfCode : Code → List Char
  | .char c => (String.utf8EncodeChar c).map fun byte => Char.ofNat byte.toNat
  | .half _ => []

def bytes (text : Text) : List Char := text.codes.flatMap bytesOfCode

theorem bytesOf_of_toString? {text : Text} {s : String} (written : text.toString? = some s) :
    Glob.bytesOf s = text.bytes := by
  obtain ⟨chars, read, rfl⟩ := Option.map_eq_some_iff.1 written
  rw [bytes, codes_of_chars? read, List.flatMap_map]
  have encoded : chars.utf8Encode.data.toList = chars.flatMap String.utf8EncodeChar := by
    simp [List.utf8Encode]
  simp only [Glob.bytesOf, String.toUTF8_eq_toByteArray, String.toByteArray_ofList, encoded,
    List.map_flatMap]
  rfl

theorem bytes_inj {a b : Text} (whole : a.isWhole = true) (whole' : b.isWhole = true)
    (same : a.bytes = b.bytes) : a = b := by
  obtain ⟨s, written⟩ := exists_of_isWhole whole
  obtain ⟨t, written'⟩ := exists_of_isWhole whole'
  rw [← bytesOf_of_toString? written, ← bytesOf_of_toString? written'] at same
  rw [← ofString_of_toString? written, ← ofString_of_toString? written', Glob.bytesOf_inj same]

def IsPlain (text : Text) : Prop := ∀ c ∈ Glob.special, text.Lacks c

instance (text : Text) : Decidable text.IsPlain :=
  List.decidableBAll (fun c => text.Lacks c) Glob.special

theorem mem_bytesOfCode {c byte : Char} (member : byte ∈ bytesOfCode (.char c)) :
    byte = c ∨ 128 ≤ byte.toNat := by
  have exact (n : Nat) (small : n < 256) : (Char.ofNat (UInt8.ofNat n).toNat).toNat = n := by
    rw [UInt8.toNat_ofNat', Nat.mod_eq_of_lt small]
    have valid : n.isValidChar := .inl (by omega)
    rw [Char.ofNat, dif_pos valid]
    rfl
  obtain ⟨unit, inside, rfl⟩ := List.mem_map.1 member
  rw [String.utf8EncodeChar] at inside
  split at inside
  · left
    rename_i small
    rw [List.mem_singleton] at inside
    rw [inside, UInt8.toNat_ofNat', Nat.mod_eq_of_lt (by omega)]
    exact Char.ofNat_toNat c
  -- Every byte of a longer form is at least 128.
  · right
    split at inside
    · simp only [List.mem_cons, List.not_mem_nil, or_false] at inside
      rcases inside with rfl | rfl <;> rw [exact _ (by omega)] <;> omega
    · split at inside <;> simp only [List.mem_cons, List.not_mem_nil, or_false] at inside
      · rcases inside with rfl | rfl | rfl <;> rw [exact _ (by omega)] <;> omega
      · rcases inside with rfl | rfl | rfl | rfl <;> rw [exact _ (by omega)] <;> omega

theorem notMem_bytes {text : Text} {c : Char} (small : c.toNat < 128) (free : text.Lacks c) :
    c ∉ text.bytes := by
  intro member
  obtain ⟨code, stands, member⟩ := List.mem_flatMap.1 member
  cases code with
  | half index => cases member
  | char other =>
    rcases mem_bytesOfCode member with rfl | large
    · exact free stands
    · omega

theorem IsPlain.bytes {text : Text} (plain : text.IsPlain) :
    ∀ byte ∈ text.bytes, byte ∉ Glob.special := by
  intro byte member inside
  obtain ⟨code, stands, member⟩ := List.mem_flatMap.1 member
  cases code with
  | half index => cases member
  | char c =>
    rcases mem_bytesOfCode member with rfl | large
    · exact plain byte inside stands
    · simp only [Glob.special, List.mem_cons, List.not_mem_nil, or_false] at inside
      rcases inside with rfl | rfl | rfl | rfl | rfl <;> exact absurd large (by decide)

theorem bytes_append (a b : List Code) :
    (Text.mk (a ++ b)).bytes = (Text.mk a).bytes ++ (Text.mk b).bytes := List.flatMap_append

end Text

namespace CacheKey

def stem (root : Text) (artifact : Artifact) : Text :=
  ⟨root.codes ++ colon :: ((artifact.keyName : Text).codes ++ [colon])⟩

theorem bytes_text (root : Text) (key : CacheKey) :
    (key.text root).bytes = (stem root key.artifact).bytes ++ (Text.mk key.body).bytes := by
  rw [← Text.bytes_append]
  refine congrArg Text.bytes (Text.codes_inj ?_)
  simp [codes_text, stem]

theorem stem_isPlain {root : Text} (plain : root.IsPlain) (artifact : Artifact) :
    (stem root artifact).IsPlain := by
  intro c inside
  have name : (artifact.keyName : Text).IsPlain := by cases artifact <;> decide
  have mark : (Text.mk [colon]).IsPlain := by decide
  have alone : Code.char c ≠ colon := fun same => mark c inside (same ▸ List.mem_cons_self)
  simp only [Text.Lacks, stem, List.mem_append, List.mem_cons, List.not_mem_nil, or_false, not_or]
  exact ⟨plain c inside, alone, name c inside, alone⟩

theorem bytes_join (root : Text) (artifact : Artifact) (first : Text) (rest : List Text) :
    (join root artifact (first :: rest)).bytes = (stem root artifact).bytes ++
      (Text.mk ([colon].intercalate ((first :: rest).map Text.codes))).bytes := by
  rw [← Text.bytes_append]
  refine congrArg Text.bytes (Text.codes_inj ?_)
  simp [join, stem, Text.intercalate, colon, Text.ofString, Text.ofChars,
    List.intercalate_cons_cons]

theorem bytes_parts (first second : Text) (rest : List Text) :
    (Text.mk ([colon].intercalate ((first :: second :: rest).map Text.codes))).bytes =
      first.bytes ++
        ':' :: (Text.mk ([colon].intercalate ((second :: rest).map Text.codes))).bytes := by
  rw [List.map_cons, List.map_cons, List.intercalate_cons_cons, List.append_assoc,
    Text.bytes_append]
  rfl

theorem bytes_part (part : Text) :
    (Text.mk ([colon].intercalate ([part].map Text.codes))).bytes = part.bytes := by
  rw [List.map_cons, List.map_nil, List.intercalate_singleton]

theorem bytes_colon (codes : List Code) :
    (Text.mk (colon :: codes)).bytes = ':' :: (Text.mk codes).bytes := by
  rfl

theorem bytes_stem (root : Text) (artifact : Artifact) :
    (stem root artifact).bytes =
      root.bytes ++ ':' :: ((artifact.keyName : Text).bytes ++ [':']) := by
  rw [stem, Text.bytes_append, bytes_colon, Text.bytes_append]
  rfl

theorem matches_colon {pattern rest : List Char} (later : Glob.Matches (Glob.parse pattern) rest) :
    Glob.Matches (Glob.parse (':' :: pattern)) (':' :: rest) := by
  have alone : ∀ c ∈ [':'], c ∉ Glob.special := List.forall_mem_singleton.2 (by decide)
  have parsed := Glob.parse_append alone pattern
  rw [List.singleton_append] at parsed
  rw [parsed]
  exact .one later

theorem parse_plain {text : Text} (plain : text.IsPlain) (rest : List Char) :
    Glob.parse (text.bytes ++ rest) = text.bytes.map .one ++ Glob.parse rest :=
  Glob.parse_append plain.bytes rest

theorem patternPart_some {part : Text} : patternPart (some part) = "*" ∨
    patternPart (some part) = part := by
  rw [patternPart]
  split
  · exact .inl rfl
  · exact .inr rfl

theorem matches_part {given : Option Text} {part : Text}
    (plain : ∀ name, given = some name → name.IsPlain)
    (covers : given = none ∨ given = some part) {pattern rest : List Char}
    (later : Glob.Matches (Glob.parse pattern) rest) :
    Glob.Matches (Glob.parse ((patternPart given).bytes ++ ':' :: pattern))
      (part.bytes ++ ':' :: rest) := by
  have ends := matches_colon later
  have star : Glob.Matches (Glob.parse (("*" : Text).bytes ++ ':' :: pattern))
      (part.bytes ++ ':' :: rest) := .many ends
  rcases covers with rfl | rfl
  · exact star
  · rcases @patternPart_some part with any | same
    · rw [any]
      exact star
    · rw [same, parse_plain (plain part rfl)]
      exact Glob.matches_literal _ ends

section

variable {root owner : Text} {given : Option Text} {pattern key : String}

theorem selects_page {fingerprint : Text} {size : Int} {cursor : Option Text}
    (plainRoot : root.IsPlain) (plain : ∀ name, given = some name → name.IsPlain)
    (covers : given = none ∨ given = some owner)
    (asked : (pagesPattern root given).toString? = some pattern)
    (written : ((page owner fingerprint size cursor).text root).toString? = some key) :
    Glob.selects pattern key = true := by
  rw [Glob.selects, Text.bytesOf_of_toString? asked, Text.bytesOf_of_toString? written,
    Glob.accepts_iff, bytes_text, body, parts, bytes_parts, pagesPattern, bytes_join, bytes_parts,
    parse_plain (stem_isPlain plainRoot _)]
  exact Glob.matches_literal _ (matches_part plain covers (Glob.matches_many _))

theorem selects_similar {post : Text} {limit : Int} (plainRoot : root.IsPlain)
    (plain : ∀ name, given = some name → name.IsPlain)
    (covers : given = none ∨ given = some owner)
    (asked : (similarPattern root given).toString? = some pattern)
    (written : ((similar post owner limit).text root).toString? = some key) :
    Glob.selects pattern key = true := by
  rw [Glob.selects, Text.bytesOf_of_toString? asked, Text.bytesOf_of_toString? written,
    Glob.accepts_iff, bytes_text, body, parts, bytes_parts, bytes_parts, similarPattern, bytes_join,
    bytes_parts, bytes_parts, parse_plain (stem_isPlain plainRoot _)]
  refine Glob.matches_literal _ (.many (matches_colon ?_))
  exact matches_part plain covers (Glob.matches_many _)

end

theorem isWhole_of_join {root : Text} {artifact : Artifact} {parts : List Text} {s : String}
    (written : (join root artifact parts).toString? = some s) :
    ∀ part ∈ parts, part.isWhole = true := by
  have whole := (Text.toString?_isSome _).symm.trans (congrArg Option.isSome written)
  rw [isWhole_join, Option.isSome_some, Bool.and_eq_true] at whole
  exact List.all_eq_true.1 whole.2

section

variable {root identity : Text} {key : CacheKey} {pattern written : String}

/-- What a pattern of values of one kind selects is of that kind, and its own parts match those of
the pattern. -/
theorem body_of_selects {artifact : Artifact} {first : Text} {rest : List Text}
    (plainRoot : root.IsPlain)
    (asked : (join root artifact (first :: rest)).toString? = some pattern)
    (encoded : (key.text root).toString? = some written)
    (selected : Glob.selects pattern written = true) :
    key.artifact = artifact ∧
      Glob.Matches
        (Glob.parse (Text.mk ([colon].intercalate ((first :: rest).map Text.codes))).bytes)
        (Text.mk key.body).bytes := by
  rw [Glob.selects, Text.bytesOf_of_toString? asked, Text.bytesOf_of_toString? encoded,
    Glob.accepts_iff, bytes_join, parse_plain (stem_isPlain plainRoot _)] at selected
  obtain ⟨body, whole, matched⟩ := Glob.split_of_matches _ selected
  rw [bytes_text, bytes_stem, bytes_stem, List.append_assoc, List.append_assoc,
    List.append_cancel_left_eq, List.cons_append, List.cons_append, List.append_assoc,
    List.append_assoc, List.cons_inj_right] at whole
  -- Behind the root both texts go on with a name up to the first colon.
  have nameless (artifact : Artifact) : ':' ∉ (artifact.keyName : Text).bytes :=
    Text.notMem_bytes (by decide) (keyName_lacks artifact)
  obtain ⟨kinds, bodies⟩ := split_at_first (nameless _) (nameless _) whole
  change (Text.mk key.body).bytes = body at bodies
  rw [bodies]
  exact ⟨keyName_inj (congrArg Text.codes
    (Text.bytes_inj (Text.isWhole_ofString _) (Text.isWhole_ofString _) kinds)), matched⟩

theorem split_at_colon {atoms text : List Char}
    (matched : Glob.Matches (Glob.parse (':' :: atoms)) text) :
    ∃ rest, text = ':' :: rest ∧ Glob.Matches (Glob.parse atoms) rest := by
  have alone : ∀ c ∈ [':'], c ∉ Glob.special := List.forall_mem_singleton.2 (by decide)
  have parsed : Glob.parse (':' :: atoms) = [':'].map .one ++ Glob.parse atoms :=
    Glob.parse_append alone atoms
  rw [parsed] at matched
  exact Glob.split_of_matches _ matched

/-- A part of a pattern that stands for itself takes that part up to a colon. -/
theorem split_at_part {atoms text : List Char} (plain : identity.IsPlain)
    (matched : Glob.Matches (Glob.parse (identity.bytes ++ ':' :: atoms)) text) :
    ∃ rest, text = identity.bytes ++ ':' :: rest := by
  rw [parse_plain plain] at matched
  obtain ⟨later, rfl, ends⟩ := Glob.split_of_matches _ matched
  obtain ⟨rest, rfl, -⟩ := split_at_colon ends
  exact ⟨rest, rfl⟩

theorem split_at_star {atoms text : List Char}
    (matched : Glob.Matches (Glob.parse (("*" : Text).bytes ++ ':' :: atoms)) text) :
    ∃ skipped rest, text = skipped ++ ':' :: rest ∧ Glob.Matches (Glob.parse atoms) rest := by
  have star : Glob.parse (("*" : Text).bytes ++ ':' :: atoms) =
      .many :: Glob.parse (':' :: atoms) := rfl
  rw [star] at matched
  cases matched with
  | many ends =>
    obtain ⟨rest, rfl, later⟩ := split_at_colon ends
    exact ⟨_, rest, rfl, later⟩

/-- The pattern of the pages of a person selects these only, out of the keys of persons whose ids
have no colon. -/
theorem isPageOf_of_selects (plainRoot : root.IsPlain) (plain : identity.IsPlain)
    (free : identity.Lacks ':') (named : identity.isEmpty = false) (free' : key.owner.Lacks ':')
    (asked : (pagesPattern root (some identity)).toString? = some pattern)
    (encoded : (key.text root).toString? = some written)
    (selected : Glob.selects pattern written = true) : key.IsPageOf identity := by
  rw [pagesPattern, patternPart, if_neg (by simp [named])] at asked
  obtain ⟨kind, matched⟩ := body_of_selects plainRoot asked encoded selected
  cases key with
  | page owner fingerprint size cursor =>
    rw [body, parts, bytes_parts, bytes_parts] at matched
    obtain ⟨rest, parted⟩ := split_at_part plain matched
    have own := (split_at_first (Text.notMem_bytes (by decide) free')
      (Text.notMem_bytes (by decide) free) parted).1
    have whole := isWhole_of_join encoded owner List.mem_cons_self
    have asker := isWhole_of_join asked identity List.mem_cons_self
    exact ⟨fingerprint, size, cursor, by rw [Text.bytes_inj whole asker own]⟩
  | interestVector | follows | blocks | seen | topics | profile | similar => cases kind

/-- The pattern of the similar lists of a person selects these only, out of the lists for persons
and about posts whose ids have no colon. -/
theorem isListFor_of_selects (plainRoot : root.IsPlain) (plain : identity.IsPlain)
    (free : identity.Lacks ':') (named : identity.isEmpty = false) (free' : key.owner.Lacks ':')
    (about : ∀ post requester limit, key = .similar post requester limit → post.Lacks ':')
    (asked : (similarPattern root (some identity)).toString? = some pattern)
    (encoded : (key.text root).toString? = some written)
    (selected : Glob.selects pattern written = true) : key.IsListFor identity := by
  rw [similarPattern, patternPart, if_neg (by simp [named])] at asked
  obtain ⟨kind, matched⟩ := body_of_selects plainRoot asked encoded selected
  cases key with
  | similar post owner limit =>
    rw [body, parts, bytes_parts, bytes_parts, bytes_parts, bytes_parts, bytes_part, bytes_part]
      at matched
    obtain ⟨skipped, later, whole, asked'⟩ := split_at_star matched
    obtain ⟨rest, rfl⟩ := split_at_part plain asked'
    have colonless {text : Text} (free : text.Lacks ':') : ':' ∉ text.bytes :=
      Text.notMem_bytes (by decide) free
    have postless := colonless (about _ _ _ rfl)
    have ownless : ':' ∉ owner.bytes := colonless free'
    have limitless := colonless (toString_lacks_colon limit)
    -- What the star takes is the post, as the key has no more colons than the pattern asks for.
    have counted := congrArg (List.count ':') whole
    simp only [List.count_append, List.count_cons_self, List.count_eq_zero.2 postless,
      List.count_eq_zero.2 ownless, List.count_eq_zero.2 limitless] at counted
    have skipless : ':' ∉ skipped := List.count_eq_zero.1 (by omega)
    have ends := (split_at_first postless skipless whole).2
    have own := (split_at_first ownless (colonless free) ends).1
    have there := isWhole_of_join encoded owner (by simp [parts])
    have asker := isWhole_of_join asked identity (by simp)
    exact ⟨post, limit, by rw [Text.bytes_inj there asker own]⟩
  | interestVector | follows | blocks | seen | topics | profile | page => cases kind

end

end CacheKey

end PersonalFeed
