import PersonalFeed.Feed.Candidates
import PersonalFeed.Proofs.Batches
import PersonalFeed.Proofs.Cache.Overrides
import PersonalFeed.Proofs.Ranking.Placements
import PersonalFeed.Weights.Stored

/-!
Signs of scores. Weights are checked and signals are cut off at zero, so no final score is below
zero, let alone infinitely small. Only rules of signs are needed for that, which undefined numbers
keep as well.
-/

set_option autoImplicit false

namespace PersonalFeed

open Scalar

/-- The rules of signs and of order. A number that is undefined is not below zero. -/
class SignRules (R : Type) [Score R] : Prop where
  le_refl (x : R) : isNaN x = false → le x x = true
  add (x y : R) : isNegative x = false → isNegative y = false → isNegative (x + y) = false
  mul (x y : R) : isNegative x = false → isNegative y = false → isNegative (x * y) = false
  div (x y : R) : isNegative x = false → le y zero = false → isNegative (x / y) = false
  ratio (n : Int) (d : Nat) : 0 ≤ n → isNegative (Scalar.ratio n d : R) = false
  /-- A number above another one that is not below zero is not below zero either. -/
  above (x y : R) : isNegative x = false → lt x y = true → isNegative y = false
  positive (x : R) : lt zero x = true → le x zero = false ∧ isNaN x = false
  /-- Every number below zero is below the least positive one. -/
  least (x : R) : lt x Exponential.leastNormal = false → isNegative x = false
  least_up : isNegative (Exponential.leastNormal : R) = false
  one_add (x : R) : isNegative x = false → le (one + x) zero = false
  /-- Half of a share does not exceed the whole. -/
  half (k m : Nat) : k ≤ m →
    isNegative (one - Scalar.ratio 1 2 * Scalar.ratio k m : R) = false

namespace Weights

structure IsProper {R : Type} [Scalar R] (weights : Weights R) : Prop where
  up : ∀ signal, isNegative (weights.get signal) = false
  total : le weights.total zero = false

variable {R : Type} [Numeral R]

theorem isNegative_of_checkWeight {signal : Signal} {given : Json R} {x : R}
    (accepted : checkWeight signal given = .ok x) : isNegative x = false := by
  have checked {y : R} (fits : checkReal signal given y = .ok x) : isNegative x = false := by
    unfold checkReal at fits
    split at fits
    · rename_i both
      cases fits
      simpa using (Bool.and_eq_true_iff.1 both).2
    · cases fits
  cases given with
  | int n =>
    rw [checkWeight] at accepted
    split at accepted
    · exact checked accepted
    · cases accepted
  | real y => exact checked accepted
  | null | bool | string | array | object => cases accepted

theorem isProper_of_check {given : Signal → Json R} {weights : Weights R}
    (accepted : check given = .ok weights) : weights.IsProper := by
  refine ⟨fun signal => isNegative_of_checkWeight (checkWeight_of_check accepted signal), ?_⟩
  obtain ⟨similarity, _, accepted⟩ := ok_of_bind accepted
  obtain ⟨temporal, _, accepted⟩ := ok_of_bind accepted
  obtain ⟨diversity, _, accepted⟩ := ok_of_bind accepted
  obtain ⟨engagement, _, accepted⟩ := ok_of_bind accepted
  obtain ⟨privacy, _, accepted⟩ := ok_of_bind accepted
  dsimp only at accepted
  split at accepted
  · cases accepted
  · rename_i notBelow
    cases accepted
    exact Bool.eq_false_iff.2 notBelow

theorem check_reals {weights : Weights R} (finite : ∀ signal, isFinite (weights.get signal) = true)
    (proper : weights.IsProper) :
    check (fun signal => .real (weights.get signal)) = .ok weights := by
  have each (signal : Signal) :
      checkWeight signal (.real (weights.get signal)) = .ok (weights.get signal) := by
    rw [checkWeight, checkReal, finite, proper.up]
    rfl
  simp only [check, each]
  change (if le weights.total zero = true then _ else Except.ok weights) = _
  rw [proper.total, if_neg Bool.false_ne_true]

theorem isProper_of_withOverrides {weights accepted : Weights R} (proper : weights.IsProper)
    {overrides : List (Text × Json R)}
    (checked : weights.withOverrides overrides = .ok accepted) : accepted.IsProper := by
  cases nothing : (changes overrides).isEmpty with
  | true =>
    rw [withOverrides, if_pos nothing] at checked
    cases checked
    exact proper
  | false =>
    have replaced := replace_of_accepted checked nothing
    unfold replace at replaced
    split at replaced
    · cases replaced
    · exact isProper_of_check replaced

theorem isProper_of_stored {stored : Json R} {weights : Weights R}
    (accepted : ofStored stored = .ok weights) : weights.IsProper := by
  obtain ⟨members, _, accepted⟩ := ok_of_bind accepted
  dsimp only at accepted
  split at accepted
  · split at accepted
    · exact isProper_of_check (ok_of_mapError accepted)
    · cases accepted
  · split at accepted <;> cases accepted

end Weights

namespace Config

variable {R : Type} [Numeral R] {config : Config R}

def IsAccepted (config : Config R) : Prop :=
  ∃ settings, ofSettings settings = .ok config

theorem isProper_of_accepted (accepted : config.IsAccepted) : config.weights.IsProper := by
  obtain ⟨settings, read⟩ := accepted
  obtain ⟨weights, checked, read⟩ := ok_of_bind read
  dsimp only at read
  split at read
  · cases read
    exact Weights.isProper_of_check (ok_of_mapError checked)
  · cases read

theorem keeps_of_accepted (accepted : config.IsAccepted) (limit : Limit)
    (listed : limit ∈ limits) : config.breaks limit = false := by
  obtain ⟨settings, read⟩ := accepted
  obtain ⟨weights, _, read⟩ := ok_of_bind read
  dsimp only at read
  split at read
  · rename_i nothing
    cases read
    rw [broken, List.isEmpty_iff, List.filter_eq_nil_iff] at nothing
    exact Bool.eq_false_iff.2 (nothing limit listed)
  · cases read

end Config

section

variable {C R : Type} [Score R] [SignRules R]

theorem isNegative_zero : isNegative (zero : R) = false := SignRules.ratio 0 1 (by omega)

theorem isNegative_one : isNegative (one : R) = false := SignRules.ratio 1 1 (by omega)

omit [SignRules R] in
theorem isNegative_smaller {x y : R} (first : isNegative x = false) (second : isNegative y = false) :
    isNegative (smaller x y) = false := by
  unfold smaller
  split <;> assumption

theorem isNegative_larger {x : R} (y : R) (first : isNegative x = false) :
    isNegative (larger x y) = false := by
  unfold larger
  split
  · rename_i above
    exact SignRules.above x y first above
  · exact first

theorem isNegative_decay (age rate : R) : isNegative (decay age rate) = false := by
  have least (x : R) : isNegative (larger x Exponential.leastNormal) = false := by
    unfold larger
    split
    · exact SignRules.least_up
    · rename_i above
      exact SignRules.least x (Bool.eq_false_iff.2 above)
  exact least _

theorem isNegative_recovery (days : R) : isNegative (recovery days) = false := by
  unfold recovery
  dsimp only
  split
  · exact isNegative_one
  · exact isNegative_smaller isNegative_one
      (isNegative_larger _ (SignRules.ratio 1 10 (by omega)))

theorem isNegative_seenMultiplier (days : Option R) : isNegative (seenMultiplier days) = false := by
  cases days with
  | none => exact isNegative_one
  | some days => exact isNegative_recovery days

theorem isNegative_cappedShare (count : Int) {cap : Int} (positive : 0 < cap) :
    isNegative (cappedShare count cap : R) = false := by
  refine isNegative_smaller ?_ isNegative_one
  rw [quotient, if_neg (by omega)]
  exact SignRules.ratio _ _ (by omega)

theorem isNegative_engagement {config : Config R} (accepted : config.IsAccepted) (post : Post C) :
    isNegative (engagement config.caps post) = false := by
  have caps := Config.keeps_of_accepted accepted .engagementCaps (by decide)
  have shares := Config.keeps_of_accepted accepted .engagementWeights (by decide)
  simp only [Config.breaks, Bool.or_eq_false_iff, decide_eq_false_iff_not, Int.not_le] at caps shares
  exact SignRules.add _ _ (SignRules.mul _ _ (isNegative_cappedShare _ caps.1) shares.1)
    (SignRules.mul _ _ (isNegative_cappedShare _ caps.2) shares.2)

theorem isNegative_novelty (topics recent : List Text) :
    isNegative (Topic.novelty topics recent : R) = false := by
  unfold Topic.novelty Topic.overlap
  split
  · exact SignRules.half 0 1 (by omega)
  · exact SignRules.half _ _ List.countP_le_length

omit [SignRules R] in
theorem eq_of_privacyScore? {muted : List (Json R)} {post : Post C} {score : R}
    (ended : privacyScore? muted post = .ok score) : score = one ∨ score = Scalar.ratio 1 10 := by
  unfold privacyScore? at ended
  induction muted with
  | nil =>
    cases ended
    exact .inl rfl
  | cons keyword rest ih =>
    cases keyword with
    | string text =>
      simp only [privacyScore?.search] at ended
      split at ended
      · cases ended
        exact .inr rfl
      · exact ih ended
    | null | bool | int | real | array | object =>
      simp only [privacyScore?.search] at ended
      split at ended
      · exact ih ended
      · cases ended

theorem isNegative_privacy {muted : List (Json R)} {post : Post C} {score : R}
    (ended : privacyScore? muted post = .ok score) : isNegative score = false := by
  rcases eq_of_privacyScore? ended with rfl | rfl
  · exact isNegative_one
  · exact SignRules.ratio 1 10 (by omega)

/-- A candidate whose signals are not below zero. The similarity may be. -/
structure Candidate.IsUp (c : Candidate C R) : Prop where
  engagement : isNegative c.engagement = false
  temporal : isNegative c.temporal = false
  privacy : isNegative c.privacy = false
  novelty : isNegative c.novelty = false
  seen : isNegative c.seen = false

theorem isUp_of_candidateOf [Component C R] {config : Config R} (accepted : config.IsAccepted)
    {now : Timestamp} {reader : ReaderContext C R} {found : List (Neighbour C R)} {post : Post C}
    {vector : Option (Embedding C)} {c : Candidate C R}
    (ended : candidateOf config now reader found post vector = .ok c) : c.IsUp := by
  obtain ⟨days, _, ended⟩ := ok_of_bind ended
  obtain ⟨temporal, recent, ended⟩ := ok_of_bind ended
  obtain ⟨privacy, kept, ended⟩ := ok_of_bind ended
  obtain ⟨rate, _, rfl⟩ := ok_of_map recent
  cases ended
  exact ⟨isNegative_engagement accepted post, isNegative_decay _ _, isNegative_privacy kept,
    isNegative_novelty _ _, isNegative_seenMultiplier _⟩

theorem isUp_of_candidatesOf [Component C R] {config : Config R} (accepted : config.IsAccepted)
    {now : Timestamp} {reader : ReaderContext C R} {found : List (Neighbour C R)}
    {posts : List (Post C)} {candidates : List (Candidate C R)}
    (ended : candidatesOf config now reader found posts = .ok candidates) :
    ∀ c ∈ candidates, c.IsUp := by
  intro c member
  rw [candidatesOf_eq] at ended
  obtain ⟨vectors, _, ended⟩ := ok_of_bind ended
  obtain ⟨⟨post, vector⟩, _, made⟩ := mem_of_mapM ended member
  exact isUp_of_candidateOf accepted made

namespace Candidate

variable {weights : Weights R} {c : Candidate C R}

theorem isNegative_base (proper : weights.IsProper) (up : c.IsUp) :
    isNegative (c.base weights) = false := by
  have similar := SignRules.mul _ _ (isNegative_larger c.similarity isNegative_zero)
    (proper.up .similarity)
  have recent := SignRules.mul _ _ up.temporal (proper.up .temporal)
  have engaged := SignRules.mul _ _ up.engagement (proper.up .engagement)
  have kept := SignRules.mul _ _ up.privacy (proper.up .privacy)
  exact SignRules.add _ _ (SignRules.add _ _ (SignRules.add _ _ similar recent) engaged) kept

theorem isBottom_finalWith (proper : weights.IsProper) (up : c.IsUp) (hits : Nat) :
    isBottom (c.finalWith weights hits) = false := by
  have penalty : isNegative (ofInt hits * Scalar.ratio 1 2 : R) = false :=
    SignRules.mul _ _ (SignRules.ratio _ _ (by omega)) (SignRules.ratio _ _ (by omega))
  have diverse := SignRules.mul _ _ (SignRules.div _ _ up.novelty (SignRules.one_add _ penalty))
    (proper.up .diversity)
  have blend := SignRules.add _ _ (isNegative_base proper up) diverse
  have final : isNegative (c.finalWith weights hits) = false :=
    SignRules.mul _ _ (SignRules.div _ _ blend proper.total) up.seen
  change (!isFinite _ && isNegative (c.finalWith weights hits)) = false
  rw [final]
  exact Bool.and_false _

end Candidate

end

end PersonalFeed
