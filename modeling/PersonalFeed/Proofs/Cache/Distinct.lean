import PersonalFeed.Proofs.Exposure.Answers
import PersonalFeed.Proofs.Number.Exact
import PersonalFeed.Proofs.Requests

/-!
Different things are cached under different keys. Parts are joined without escapes, and an identity
may hold any sign. Keys are told apart all the same, since at most one part of a key can hold a
colon, and all others are found by counting colons from the two ends.
-/

set_option autoImplicit false

namespace PersonalFeed

namespace CacheKey

theorem artifactName_text (root : Text) (key : CacheKey) :
    artifactName root (key.text root) = key.artifact.keyName := by
  have rest : (key.text root).codes.drop (root.length + 1) =
      (key.artifact.keyName : Text).codes ++ colon :: key.body := by
    rw [codes_text, ← List.drop_drop, Text.length, List.drop_left]
    rfl
  refine Text.codes_inj ?_
  rw [artifactName, rest, List.takeWhile_append_of_pos, List.takeWhile_cons_of_neg (by simp [colon]),
    List.append_nil]
  exact fun code member => decide_eq_true fun same =>
    keyName_lacks key.artifact (by rw [colon, ← same]; exact member)

theorem artifact_of_text {root : Text} {key other : CacheKey}
    (same : key.text root = other.text root) : key.artifact = other.artifact := by
  have names := artifactName_text root key
  rw [same, artifactName_text] at names
  exact keyName_inj (congrArg Text.codes names.symm)

end CacheKey

section

variable {R : Type} [Score R]

def Weights.override? (overrides : List (Text × Json R)) (name : Text) :
    Option (Except Breakdown R) :=
  ((changes overrides).find? (·.1 = name)).map (·.2.toReal)

def FeedQuery.key? (query : FeedQuery R) : Except (Fault R) CacheKey := do
  return .page query.identity (← Weights.fingerprint query.overrides) query.pageSize query.cursor

def SimilarQuery.key (query : SimilarQuery) : CacheKey :=
  .similar query.post query.requester query.limit

namespace Weights

variable [FaithfulText R] {weights weights' accepted accepted' : Weights R}
variable {overrides others : List (Text × Json R)} {fingerprint : Text}

omit [FaithfulText R] in
theorem override?_unknown (checked : weights.withOverrides overrides = .ok accepted) {name : Text}
    (unknown : ∀ signal : Signal, name ≠ signal.name) : override? overrides name = none := by
  rw [override?, Option.map_eq_none_iff, List.find?_eq_none]
  intro change member named
  obtain ⟨signal, same⟩ := signal_of_accepted checked member
  exact unknown signal ((of_decide_eq_true named).symm.trans same)

theorem override?_of_fingerprint (checked : weights.withOverrides overrides = .ok accepted)
    (checked' : weights'.withOverrides others = .ok accepted')
    (made : Weights.fingerprint overrides = .ok fingerprint)
    (made' : Weights.fingerprint others = .ok fingerprint) (name : Text) :
    override? overrides name = override? others name := by
  by_cases known : ∃ signal : Signal, name = signal.name
  · obtain ⟨signal, rfl⟩ := known
    rcases find?_of_fingerprint checked checked' made made' signal with
      ⟨first, second⟩ | ⟨change, change', first, second, same⟩
    · rw [override?, override?, first, second]
    · obtain ⟨x, fits⟩ := checkWeight_of_accepted checked first
      have value := (toReal_of_checkWeight fits).1
      have value' := (toReal_of_checkWeight (same ▸ fits)).1
      rw [override?, override?, first, second, Option.map_some, Option.map_some, value, value']
  · have unknown : ∀ signal : Signal, name ≠ signal.name := fun signal same => known ⟨signal, same⟩
    rw [override?_unknown checked unknown, override?_unknown checked' unknown]

end Weights

/-- Written keys of checked requests are the same only for pages of one reader, size and cursor
under the same overridden numbers, or for lists of one post, requester and limit. Keys of two kinds
are never written alike, and each names its kind. -/
theorem text_distinguishes [FaithfulText R] (root : Text) :
    (∀ (config config' : Config R) (request request' : FeedRequest R) (query query' : FeedQuery R)
        (key key' : CacheKey), Service.checkFeed config request = .ok query →
        Service.checkFeed config' request' = .ok query' → query.key? = .ok key →
        query'.key? = .ok key' → key.text root = key'.text root →
      query.identity = query'.identity ∧ query.pageSize = query'.pageSize ∧
        query.cursor = query'.cursor ∧
        ∀ name, Weights.override? query.overrides name = Weights.override? query'.overrides name) ∧
    (∀ (config config' : Config R) (request request' : SimilarRequest R)
        (query query' : SimilarQuery), Service.checkSimilar config request = .ok query →
        Service.checkSimilar config' request' = .ok query' →
        query.key.text root = query'.key.text root → query = query') ∧
    (∀ key other : CacheKey, key.artifact ≠ other.artifact → key.text root ≠ other.text root) ∧
    ∀ key : CacheKey, CacheKey.artifactName root (key.text root) = key.artifact.keyName := by
  refine ⟨?_, ?_, ?_, CacheKey.artifactName_text root⟩
  · intro config config' request request' query query' key key' checked checked' keyed keyed' same
    obtain ⟨fingerprint, made, keyed⟩ := ok_of_bind keyed
    obtain ⟨fingerprint', made', keyed'⟩ := ok_of_bind keyed'
    cases keyed
    cases keyed'
    -- Only the fingerprint is left to open: the other parts are in the key as they are.
    have keys := CacheKey.text_inj (Service.proper_of_checkFeed checked made)
      (Service.proper_of_checkFeed checked' made') same
    injection keys with identities fingerprints sizes cursors
    obtain ⟨_, accepted⟩ := Service.accepted_of_checkFeed checked
    obtain ⟨_, accepted'⟩ := Service.accepted_of_checkFeed checked'
    refine ⟨identities, Int.ofNat.inj sizes, cursors, fun name => ?_⟩
    exact Weights.override?_of_fingerprint accepted accepted' made (fingerprints ▸ made') name
  · intro config config' request request' query query' checked checked' same
    have proper {config : Config R} {request : SimilarRequest R} {query : SimilarQuery}
        (checked : Service.checkSimilar config request = .ok query) : query.key.IsProper := by
      obtain ⟨_, n, named⟩ := Service.checkSimilar_ok checked
      change query.post.Lacks ':'
      exact named ▸ PostId.write_lacks n
    have keys := CacheKey.text_inj (proper checked) (proper checked') same
    obtain ⟨post, requester, limit⟩ := query
    obtain ⟨post', requester', limit'⟩ := query'
    injection keys with posts requesters limits
    cases posts
    cases requesters
    cases Int.ofNat.inj limits
    rfl
  · exact fun key other kinds same => kinds (CacheKey.artifact_of_text same)

end

def moreSimilar : List (Text × Json ℚ) := [("similarity", .real 1)]

def similarFirst : Weights ℚ := { Weights.default with similarity := 1 }

theorem similarFirst_isProper : similarFirst.IsProper where
  up signal := by cases signal <;> decide +kernel
  total := by decide +kernel

section

variable {overrides : List (Text × Json ℚ)} (given : Weights.changes overrides = moreSimilar)

include given

theorem checkFeed_moreSimilar :
    Service.checkFeed (⟨.default, .standard, .standard⟩ : Config ℚ)
      ⟨"ann", .int 10, .null, overrides⟩ = .ok ⟨"ann", 10, none, overrides⟩ := by
  have values : (fun signal : Signal =>
      (Json.find? signal.name moreSimilar).getD (.real (Weights.default.get signal))) =
        fun signal => .real (similarFirst.get signal) :=
    funext fun signal => by cases signal <;> rfl
  have replaced : (Weights.default : Weights ℚ).replace moreSimilar = .ok similarFirst := by
    rw [Weights.replace, values, Weights.check_reals (fun _ => rfl) similarFirst_isProper]
    rfl
  have accepted : (Weights.default : Weights ℚ).withOverrides overrides = .ok similarFirst := by
    rw [Weights.withOverrides, given, if_neg (by decide), replaced]
    rfl
  unfold Service.checkFeed
  rw [accepted]
  rfl

theorem fingerprint_moreSimilar : Weights.fingerprint overrides = .ok "similarity=1000000e-6" := by
  have same : Weights.fingerprint overrides = Weights.fingerprint moreSimilar := by
    rw [Weights.fingerprint, Weights.fingerprint, given]
    rfl
  have text : (Weights.fingerprint moreSimilar).toOption = some "similarity=1000000e-6" := by
    decide +kernel
  rw [same]
  cases made : Weights.fingerprint moreSimilar with
  | error cause => simp [made, Except.toOption] at text
  | ok written => simpa [made, Except.toOption] using text

end

/-- Two requests whose pages are kept under one key, as one leaves out what the other gives as
nothing; two whose lists are, as they spell one post in two ways; and two keys of one identity. -/
theorem text_distinguishes_of_spellings :
    let given : FeedQuery ℚ := ⟨"ann", 10, none, moreSimilar⟩
    let padded : FeedQuery ℚ := ⟨"ann", 10, none, ("privacy", .null) :: moreSimilar⟩
    let related : SimilarQuery := ⟨"0f0e0d0c-0b0a-4908-8706-050403020100", "ann:5", 10⟩
    (given.identity = padded.identity ∧ given.pageSize = padded.pageSize ∧
      given.cursor = padded.cursor ∧ ∀ name,
        Weights.override? given.overrides name = Weights.override? padded.overrides name) ∧
    related = related ∧
    (CacheKey.seen "ann:5").text "discovery" ≠ related.key.text "discovery" := by
  refine ⟨(text_distinguishes "discovery").1 _ _ _ _ _ _
      (.page "ann" "similarity=1000000e-6" 10 none) (.page "ann" "similarity=1000000e-6" 10 none)
      (checkFeed_moreSimilar rfl) (checkFeed_moreSimilar rfl) ?_ ?_ rfl,
    (text_distinguishes (R := ℚ) "discovery").2.1 ⟨.default, .standard, .standard⟩
      ⟨.default, .standard, .standard⟩
      ⟨.string "0f0e0d0c-0b0a-4908-8706-050403020100", "ann:5", .int 10⟩
      ⟨.string "0F0E0D0C-0B0A-4908-8706-050403020100", "ann:5", .int 10⟩ _ _ rfl rfl rfl,
    (text_distinguishes (R := ℚ) "discovery").2.2.1 _ _ (by decide)⟩
  · rw [FeedQuery.key?, fingerprint_moreSimilar rfl]
    rfl
  · rw [FeedQuery.key?, fingerprint_moreSimilar rfl]
    rfl

end PersonalFeed
