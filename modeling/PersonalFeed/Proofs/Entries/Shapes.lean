import PersonalFeed.Proofs.Coherence.Drops
import PersonalFeed.Proofs.Pages.Malformed

/-!
What look-ups find in a cache that holds any texts. An entry that is no document, or the document of
nothing at all, is as good as none. The values that have the shape of their kind are read.
-/

set_option autoImplicit false

namespace PersonalFeed

variable {C R : Type}

section

variable [Numeral R]

/-- What a look-up makes of a reply. Numbers and nestings beyond the limits break it. -/
def CacheReply.reading : CacheReply R → Except Breakdown (Option (Json R))
  | .off | .absent => .ok none
  | .found entry =>
    match entry.decode with
    | .ok .null => .ok none
    | .ok value => .ok (some value)
    | .error flaw =>
      match flaw.breakdown? with
      | some cause => .error cause
      | none => .ok none

namespace CacheStore

variable (cache : CacheStore R) (written : String)

def reading : Except Breakdown (Option (Json R)) := (cache.read written).reading

def isVoid : Bool :=
  match cache.reading written with
  | .ok none => true
  | .ok (some _) | .error _ => false

variable {cache written}

theorem reading_of_isVoid (void : cache.isVoid written = true) :
    cache.reading written = .ok none := by
  unfold isVoid at void
  split at void
  · assumption
  · cases void
  · cases void

theorem reading_dropped : (cache.dropped cache.isVoid).reading written = cache.reading written := by
  cases on : cache.isOn with
  | false => rw [dropped_of_off on]
  | true =>
    have kept : (cache.dropped cache.isVoid).isOn = true := isOn_dropped.trans on
    cases void : cache.isVoid written with
    | true =>
      rw [reading_of_isVoid void, reading, read, if_pos kept, entry?_dropped on, void]
      rfl
    | false =>
      have same : CacheStore.entry? (cache.dropped cache.isVoid) written =
          CacheStore.entry? cache written := by
        rw [entry?_dropped on, void]
        rfl
      rw [reading, reading, read, read, if_pos kept, if_pos on, same]

def found? (root : Text) (cache : CacheStore R) (key : CacheKey) : Option (Json R) :=
  (key.text root).toString?.bind fun written => (cache.reading written).toOption.join

theorem reading_write {key : Text} (differs : key.toString? ≠ some written) (value : Json R)
    (lifetime : Int) :
    (cache.write key value lifetime).reading written = cache.reading written := by
  rw [reading, reading, read_congr (isOn_write ..) (filter_write differs ..)]

end CacheStore

end

/-- What a profile may say about its weights: nothing, or a record without a number that is too
long. -/
def Json.GivesWeights [Numeral R] (given : Json R) : Prop :=
  given.isAbsent = true ∨ ∃ fields, given = .object fields ∧ Weights.IsShort fields

def Json.IsKeyword [Scalar R] (given : Json R) : Prop :=
  given.isAbsent = true ∨ ∃ text, given = .string text

variable (C) in
/-- Values in the shape of a kind: lists of ids, records of moments with a zone, profiles, vectors
and answers. -/
inductive Json.HasShape [Component C R] [Numeral R] : Artifact → Json R → Prop
  | interestVector {components : List (Json R)} (legible : IsLegible C components) :
    HasShape .interestVector (.array components)
  | follows (ids : List Text) : HasShape .follows (.ofTexts ids)
  | blocks (ids : List Text) : HasShape .blocks (.ofTexts ids)
  | topics (ids : List Text) : HasShape .topics (.ofTexts ids)
  | seen {fields : List (Text × Json R)}
      (moments : ∀ field ∈ fields, ∃ text clock offset, field.2 = .string text ∧
        Timestamp.parseText? text = some (clock, some offset)) :
    HasShape .seen (.object fields)
  | profile {fields : List (Text × Json R)}
      (weights : ∀ given, find? "weights" fields = some given → given.GivesWeights)
      (muted : ∀ given, find? "muted_keywords" fields = some given →
        given.isAbsent = true ∨ ∃ keywords, given = .array keywords ∧
          ∀ keyword ∈ keywords, keyword.IsKeyword) :
    HasShape .profile (.object fields)
  | feedPage {value : Json R} {response : FeedResponse R}
      (read : FeedResponse.read value = .valid response) : HasShape .feedPage value
  | similar {value : Json R} {response : SimilarResponse R}
      (read : SimilarResponse.read value = .valid response) : HasShape .similar value

variable (C) in
def CacheStore.IsShapedAt [Component C R] [Numeral R] (root : Text) (cache : CacheStore R)
    (key : CacheKey) : Prop :=
  ∀ written, (key.text root).toString? = some written →
    ∃ found, cache.reading written = .ok found ∧
      ∀ value, found = some value → value.HasShape C key.artifact

section

variable [Numeral R]

theorem IdSet.ofJson_texts (texts : List Text) :
    ofJson (.ofTexts texts : Json R) = .ok (.ids texts.eraseDups) := by
  have members : (Json.ofTexts texts : Json R).members =
      (Json.ofTexts texts.eraseDups : Json R).members := by
    have single (texts : List Text) : (texts.map (Json.string (R := R))).mapM Json.member =
        .ok ((texts.map .string).map id) := by
      refine mapM_ok_map _ _ _ fun value member => ?_
      obtain ⟨text, _, rfl⟩ := List.mem_map.1 member
      rfl
    simp only [Json.ofTexts, Json.members, single, List.map_id, Except.map, eraseDupsBy_strings,
      eraseDups_of_nodup (nodup_eraseDups texts)]
  rw [ofJson, members]
  exact ofJson_ofTexts (nodup_eraseDups texts)

theorem SeenMap.ofJson_of_hasShape [Component C R] {value : Json R}
    (shaped : value.HasShape C .seen) : ∃ seen, ofJson value = .ok seen ∧ seen.IsZoned := by
  cases shaped with
  | @seen fields moments =>
    induction fields with
    | nil => exact ⟨[], rfl, fun mark member => absurd member List.not_mem_nil⟩
    | cons field rest ih =>
      obtain ⟨post, stamp⟩ := field
      obtain ⟨later, read, zoned⟩ :=
        ih fun other member => moments other (List.mem_cons_of_mem _ member)
      obtain ⟨text, clock, offset, rfl, parsed⟩ := moments _ List.mem_cons_self
      refine ⟨(post, some (Timestamp.ofClock clock offset)) :: later, ?_, ?_⟩
      · rw [ofJson] at read ⊢
        rw [List.mapM_cons, read]
        dsimp only [momentOfJson]
        rw [parsed]
        rfl
      · exact List.forall_mem_cons.2 ⟨⟨_, rfl⟩, zoned⟩

def Json.TellsWeights (given : Json R) : Prop :=
  given.isAbsent = true ∨ (∃ weights, Weights.ofStored given = .ok weights) ∨
    ∃ cause, Weights.ofStored given = .error (.configuration cause)

theorem Json.GivesWeights.tells {given : Json R} (gives : given.GivesWeights) :
    given.TellsWeights := by
  rcases gives with absent | ⟨fields, rfl, short⟩
  · exact .inl absent
  · exact .inr (Weights.ofStored_of_short short)

structure Profile.IsUsable (profile : Profile R) : Prop where
  weights : profile.weights.TellsWeights
  muted : ∀ keyword ∈ profile.muted, keyword.IsKeyword

theorem Profile.ofJson_of_hasShape [Component C R] {value : Json R}
    (shaped : value.HasShape C .profile) :
    ∃ found, ofJson value = .ok found ∧ ∀ profile, found = some profile → profile.IsUsable := by
  cases shaped with
  | @profile fields weights muted =>
    let field (name : Text) : Json R := (Json.find? name fields).getD .null
    -- A field that is missing is read as null, which stands for an empty list and for no weights.
    obtain ⟨keywords, listed, each⟩ : ∃ keywords, (field "muted_keywords").listed = .ok keywords ∧
        ∀ keyword ∈ keywords, keyword.IsKeyword := by
      cases given : Json.find? "muted_keywords" fields with
      | none => exact ⟨[], by simp [field, given, Json.listed, Json.isAbsent], by simp⟩
      | some list =>
        have same : field "muted_keywords" = list := by simp [field, given]
        rw [same]
        rcases muted list given with absent | ⟨keywords, rfl, each⟩
        · exact ⟨[], if_pos absent, by simp⟩
        · exact ⟨keywords, Json.listed_array keywords, each⟩
    have gives : (field "weights").GivesWeights := by
      cases given : Json.find? "weights" fields with
      | none => exact .inl (by simp [field, given, Json.isAbsent])
      | some stored => exact by simpa [field, given] using weights stored given
    unfold ofJson
    dsimp only
    split
    · exact ⟨none, rfl, by simp⟩
    · rw [listed]
      refine ⟨some ⟨field "weights", keywords⟩, rfl, fun profile same => ?_⟩
      cases same
      exact ⟨gives.tells, each⟩

end

end PersonalFeed
