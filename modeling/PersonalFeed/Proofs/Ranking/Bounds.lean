import PersonalFeed.Feed.Candidates
import PersonalFeed.Proofs.Ranking.Cosines

/-!
Bounds of scores in extended arithmetic. Each signal is cut off somewhere, so that a final score is
finite unless the weights alone go beyond all numbers: the total that divides, or the blend of the
highest signals.
-/

set_option autoImplicit false

namespace PersonalFeed

open Scalar Extended

variable {a : Arithmetic} {width : Width}

namespace Extended

def UpTo (bound : ℚ) (x : Extended a width) : Prop :=
  ∃ q, x.value? = some q ∧ 0 ≤ q ∧ q ≤ bound

variable {x y : Extended a width} {q r bound : ℚ}

theorem upTo_zero : UpTo 1 (zero : Extended a width) := ⟨0, value?_zero, le_refl 0, zero_le_one⟩

theorem upTo_one : UpTo 1 (one : Extended a width) := ⟨1, value?_one, zero_le_one, le_refl 1⟩

theorem upTo_ofRat (up : 0 ≤ q) (below : q ≤ 1) : UpTo 1 (ofRat q : Extended a width) :=
  ⟨q, value?_ofRat (inRange_of_le (by linarith) (by linarith)), up, below⟩

theorem upTo_ratio {n : Int} {d : Nat} (up : 0 ≤ n) (below : n ≤ d) :
    UpTo 1 (ratio n d : Extended a width) :=
  upTo_ofRat (div_nonneg (Int.cast_nonneg up) (Nat.cast_nonneg d))
    (div_le_one_of_le₀ (by exact_mod_cast below) (Nat.cast_nonneg d))

theorem upTo_larger_zero (inside : Within 1 x) : UpTo 1 (larger zero x) := by
  obtain ⟨q, found, small⟩ := inside
  unfold larger
  split
  · rename_i above
    rw [lt_of_value value?_zero found, decide_eq_true_eq] at above
    exact ⟨q, found, above.le, (abs_le.1 small).2⟩
  · exact upTo_zero

theorem isFinite_between {least most : Extended a width} (first : least.value? = some q)
    (last : most.value? = some r) (above : lt least x = true) (under : lt x most = true) :
    ∃ s, x.value? = some s ∧ q < s ∧ s < r := by
  cases x with
  | finite s =>
    rw [lt_of_value first rfl] at above
    rw [lt_of_value rfl last] at under
    exact ⟨s, rfl, of_decide_eq_true above, of_decide_eq_true under⟩
  | infinite negative =>
    rw [eq_ofRat first, ofRat_inRange (inRange_of_value first)] at above
    rw [eq_ofRat last, ofRat_inRange (inRange_of_value last)] at under
    cases negative with
    | false => cases under
    | true => cases above
  | undefined => cases under

theorem upTo_between {least : Extended a width} (small : UpTo 1 least) (x : Extended a width) :
    UpTo 1 (smaller one (larger least x)) := by
  unfold smaller
  split
  · rename_i under
    unfold larger at under ⊢
    split at under
    · rename_i above
      obtain ⟨q, found, up, -⟩ := small
      obtain ⟨s, inside, less, below⟩ := isFinite_between found value?_one above under
      rw [if_pos above]
      exact ⟨s, inside, up.trans less.le, below.le⟩
    · rename_i notAbove
      rw [if_neg notAbove]
      exact small
  · exact upTo_one

theorem upTo_cappedShare (count : Int) {cap : Int} (positive : 0 < cap) :
    UpTo 1 (cappedShare count cap : Extended a width) := by
  have up : (0 : ℚ) ≤ (max count 0 : Int) / (cap.natAbs : ℕ) :=
    div_nonneg (Int.cast_nonneg (le_max_right count 0)) (Nat.cast_nonneg _)
  have share : (quotient (max count 0) cap : Extended a width) =
      ofRat ((max count 0 : Int) / (cap.natAbs : ℕ)) := by
    rw [quotient, if_neg (by omega), ratio_eq]
  rw [cappedShare, share]
  generalize ((max count 0 : Int) / (cap.natAbs : ℕ) : ℚ) = q at up
  unfold smaller
  split
  · exact upTo_one
  · rename_i notAbove
    by_cases inRange : |q| ≤ a.largest width
    · rw [lt_of_value value?_one (value?_ofRat inRange), decide_eq_true_eq, not_lt] at notAbove
      exact upTo_ofRat up notAbove
    · rw [ofRat_beyond up inRange, one_finite.choose_spec] at notAbove
      exact absurd rfl notAbove

theorem upTo_novelty (topics recent : List Text) :
    UpTo 1 (Topic.novelty topics recent : Extended a width) := by
  have overlap : UpTo 1 (Topic.overlap topics recent : Extended a width) := by
    unfold Topic.overlap
    split
    · exact upTo_zero
    · exact upTo_ratio (by omega) (by exact_mod_cast List.countP_le_length)
  obtain ⟨q, found, up, below⟩ := overlap
  have product : (ratio 1 2 * Topic.overlap topics recent : Extended a width).value? =
      some (1 / 2 * q) := by
    rw [mul_of_value value?_half found]
    exact value?_ofRat (inRange_of_le (by linarith) (by linarith))
  rw [Topic.novelty, sub_of_value value?_one product]
  exact upTo_ofRat (by linarith) (by linarith)

theorem upTo_recovery (days : Extended a width) : UpTo 1 (recovery days) := by
  unfold recovery
  dsimp only
  split
  · exact upTo_one
  · exact upTo_between (upTo_ratio (by omega) (by norm_num)) _

theorem upTo_seenMultiplier (days : Option (Extended a width)) : UpTo 1 (seenMultiplier days) := by
  cases days with
  | none => exact upTo_one
  | some days => exact upTo_recovery days

theorem exp_of_le_zero (below : le x zero = true) :
    ∃ e ≤ 1, Exponential.exp x = (ofRat e : Extended a width) := by
  cases x with
  | finite s =>
    rw [le_of_value rfl value?_zero] at below
    exact ⟨a.exp s, a.exp_le_one s (of_decide_eq_true below), rfl⟩
  | infinite negative =>
    rw [zero_finite.choose_spec] at below
    cases negative with
    | false => cases below
    | true => exact ⟨0, zero_le_one, rfl⟩
  | undefined => cases below

theorem mul_le_zero (found : x.value? = some q) (negative : q < 0) (number : isNaN y = false)
    (up : isNegative y = false) : le (x * y) zero = true := by
  cases y with
  | finite s =>
    rw [mul_of_value found rfl, le_zero_ofRat]
    have up : 0 ≤ s := by simpa using up
    exact decide_eq_true (mul_nonpos_of_nonpos_of_nonneg negative.le up)
  | infinite other =>
    cases (isNegative_infinite other).symm.trans up
    have product : x * infinite false = scale false q := by
      rw [eq_ofRat found, ofRat_inRange (inRange_of_value found)]
      rfl
    rw [product, scale, if_neg negative.ne, decide_eq_true negative, zero_finite.choose_spec]
    rfl
  | undefined => cases number

theorem upTo_larger_least {e : ℚ} (below : e ≤ 1) :
    UpTo 1 (larger (ofRat e : Extended a width) Exponential.leastNormal) := by
  have up : (0 : ℚ) ≤ 1 / 2 ^ 1022 := by positivity
  have small : (1 / 2 ^ 1022 : ℚ) ≤ 1 :=
    div_le_one_of_le₀ (one_le_pow₀ one_le_two) (pow_nonneg zero_le_two _)
  unfold larger
  split
  · exact ⟨_, value?_least, up, small⟩
  · rename_i notBelow
    by_cases inRange : |e| ≤ a.largest width
    · rw [lt_of_value (value?_ofRat inRange) value?_least, decide_eq_true_eq, not_lt] at notBelow
      exact ⟨e, value?_ofRat inRange, up.trans notBelow, below⟩
    -- What is out of range and not above one is infinitely small.
    · have negative : e < 0 := by
        by_contra notNegative
        exact inRange (inRange_of_le (by linarith) (by linarith))
      rw [ofRat, dif_neg inRange, decide_eq_true negative, eq_ofRat value?_least,
        ofRat_inRange (inRange_of_value value?_least)] at notBelow
      exact absurd rfl notBelow

theorem upTo_decay {age rate : Extended a width} (number : isNaN age = false)
    (steady : rate.value? = some r) (positive : 0 < r) : UpTo 1 (decay age rate) := by
  have later : isNaN (larger zero age) = false := by
    unfold larger
    split
    · exact number
    · exact not_isNaN value?_zero
  obtain ⟨e, below, grown⟩ := exp_of_le_zero
    (mul_le_zero (value?_neg steady) (neg_lt_zero.2 positive) later
      (isNegative_larger age isNegative_zero))
  rw [decay, grown]
  exact upTo_larger_least below

theorem upTo_privacy {C : Type} {muted : List (Json (Extended a width))} {post : Post C}
    {score : Extended a width} (ended : privacyScore? muted post = .ok score) : UpTo 1 score := by
  rcases eq_of_privacyScore? ended with rfl | rfl
  · exact upTo_one
  · exact upTo_ratio (by omega) (by norm_num)

theorem isNaN_hoursUntil (earlier later : Timestamp) :
    isNaN (earlier.hoursUntil later : Extended a width) = false := by
  have hour : (ofInt 3600 : Extended a width).value? = some 3600 := by
    have inRange : |(3600 : ℚ)| ≤ a.largest width := by
      rw [abs_of_nonneg (by norm_num)]
      exact_mod_cast le_trans (by decide) (a.wide width)
    have same : ((3600 : Int) : ℚ) / (1 : Nat) = 3600 := by norm_num
    rw [ofInt, ratio_eq, same, value?_ofRat inRange]
  exact isNaN_div (isNaN_ofRat _) hour (by norm_num)

theorem upTo_mul {weight : ℚ} (share : UpTo 1 x) (weighs : y.value? = some weight)
    (up : 0 ≤ weight) : UpTo weight (x * y) := by
  obtain ⟨q, found, least, most⟩ := share
  have product : 0 ≤ q * weight := mul_nonneg least up
  have scaled : q * weight ≤ weight := mul_le_of_le_one_left up most
  have inRange := (abs_le.1 (inRange_of_value weighs)).2
  refine ⟨q * weight, ?_, product, scaled⟩
  rw [mul_of_value found weighs, value?_ofRat (by rw [abs_of_nonneg product]; linarith)]

theorem upTo_add {bound' : ℚ} (first : UpTo bound x) (second : UpTo bound' y)
    (inRange : bound + bound' ≤ a.largest width) : UpTo (bound + bound') (x + y) := by
  obtain ⟨q, isFirst, up, below⟩ := first
  obtain ⟨r, isSecond, up', below'⟩ := second
  refine ⟨q + r, ?_, by linarith, by linarith⟩
  rw [add_of_value isFirst isSecond, value?_ofRat (by rw [abs_of_nonneg] <;> linarith)]

theorem within_convert {other : Width} {z : Extended a other} (inside : Within 1 z) :
    Within 1 (convert z : Extended a width) := by
  obtain ⟨q, found, small⟩ := inside
  have bounds := abs_le.1 small
  cases z with
  | finite =>
    cases found
    exact ⟨q, value?_ofRat (inRange_of_le (by linarith) (by linarith)), small⟩
  | infinite | undefined => cases found

/-- A part of a blend: not above what the highest signal makes of its weight, and not above a
multiple of the weight. -/
def IsPart (highest weighed : ℚ) (x : Extended a width) : Prop :=
  ∃ q, x.value? = some q ∧ 0 ≤ q ∧ q ≤ highest ∧ q ≤ weighed

theorem isPart_mul {most weight : ℚ} (signal : UpTo bound x) (weighs : y.value? = some weight)
    (up : 0 ≤ weight) (atMost : bound ≤ most) (inRange : bound * weight ≤ a.largest width) :
    IsPart (bound * weight) (most * weight) (x * y) := by
  obtain ⟨q, found, positive, below⟩ := signal
  have highest : q * weight ≤ bound * weight := mul_le_mul_of_nonneg_right below up
  have weighed : bound * weight ≤ most * weight := mul_le_mul_of_nonneg_right atMost up
  have least : 0 ≤ q * weight := mul_nonneg positive up
  refine ⟨q * weight, ?_, least, highest, highest.trans weighed⟩
  rw [mul_of_value found weighs, value?_ofRat (by rw [abs_of_nonneg least]; linarith)]

theorem isPart_add {highest highest' weighed weighed' : ℚ} (first : IsPart highest weighed x)
    (second : IsPart highest' weighed' y) (inRange : highest + highest' ≤ a.largest width) :
    IsPart (highest + highest') (weighed + weighed') (x + y) := by
  obtain ⟨q, isFirst, up, high, heavy⟩ := first
  obtain ⟨r, isSecond, up', high', heavy'⟩ := second
  refine ⟨q + r, ?_, by linarith, by linarith, by linarith⟩
  rw [add_of_value isFirst isSecond, value?_ofRat (by rw [abs_of_nonneg] <;> linarith)]

theorem upTo_mul_share (signal : UpTo bound x) (share : UpTo 1 y) : UpTo bound (x * y) := by
  obtain ⟨q, found, up, below⟩ := signal
  obtain ⟨r, isShare, least, most⟩ := share
  have product : 0 ≤ q * r := mul_nonneg up least
  have scaled : q * r ≤ q := mul_le_of_le_one_right up most
  have inRange := (abs_le.1 (inRange_of_value found)).2
  refine ⟨q * r, ?_, product, scaled.trans below⟩
  rw [mul_of_value found isShare, value?_ofRat (by rw [abs_of_nonneg product]; linarith)]

/-- A mean by weights does not exceed what each part makes of its weight at most. -/
theorem upTo_mean {highest weighed most total : ℚ} (blend : IsPart highest weighed x)
    (weighs : y.value? = some total) (positive : 0 < total) (parts : weighed = most * total)
    (inRange : most ≤ a.largest width) : UpTo most (x / y) := by
  obtain ⟨q, found, up, -, below⟩ := blend
  have least : 0 ≤ q / total := div_nonneg up positive.le
  have mean : q / total ≤ most := by
    rw [div_le_iff₀ positive]
    exact below.trans_eq parts
  refine ⟨q / total, ?_, least, mean⟩
  rw [div_of_value found weighs positive.ne', value?_ofRat (by rw [abs_of_nonneg least]; linarith)]

end Extended

def EngagementCaps.peak {R : Type} [Scalar R] (caps : EngagementCaps R) : R :=
  caps.saveWeight + caps.commentWeight

def Weights.peak {R : Type} [Scalar R] (weights : Weights R) (caps : EngagementCaps R) : R :=
  weights.similarity + weights.temporal + caps.peak * weights.engagement + weights.privacy +
    weights.diversity

/-- Weights that no blend goes beyond all numbers with. -/
structure Weights.IsModerate {R : Type} [Scalar R] (weights : Weights R) (caps : EngagementCaps R) :
    Prop where
  total : isFinite weights.total = true
  peak : isFinite (weights.peak caps) = true

structure Candidate.IsBounded {C : Type} (peak : ℚ) (c : Candidate C (Extended a width)) :
    Prop where
  similarity : UpTo 1 (larger zero c.similarity)
  engagement : UpTo peak c.engagement
  temporal : UpTo 1 c.temporal
  privacy : UpTo 1 c.privacy
  novelty : UpTo 1 c.novelty
  seen : UpTo 1 c.seen

namespace Candidate

variable {C : Type} {c : Candidate C (Extended a width)} {weights : Weights (Extended a width)}

theorem upTo_diversity (bounded : UpTo 1 c.novelty) (hits : Nat) :
    UpTo 1 (c.novelty / (one + ofInt hits * ratio 1 2)) := by
  obtain ⟨q, found, up, below⟩ := bounded
  have count : (ofInt hits : Extended a width) = ofRat hits := by
    rw [ofInt, ratio_eq, Int.cast_natCast, Nat.cast_one, div_one]
  have many : (0 : ℚ) ≤ hits := Nat.cast_nonneg hits
  obtain ⟨d, least, divisor⟩ : ∃ d : ℚ, 1 ≤ d ∧
      one + ofInt hits * ratio 1 2 = (ofRat d : Extended a width) := by
    by_cases inRange : |(hits : ℚ)| ≤ a.largest width
    · refine ⟨1 + hits * (1 / 2), by linarith, ?_⟩
      rw [count, mul_of_value (value?_ofRat inRange) value?_half, one_eq,
        ofRat_add zero_le_one (by linarith)]
    -- Too many to count: the sum is infinite as well.
    · have large : (1 : ℚ) ≤ hits := by
        by_contra small
        exact inRange (inRange_of_le (by linarith) (by linarith))
      refine ⟨hits, large, ?_⟩
      rw [count, ofRat_beyond many inRange, one_finite.choose_spec, eq_ofRat value?_half,
        ofRat_inRange (inRange_of_value value?_half)]
      change add _ (scale false (1 / 2)) = _
      rw [scale, if_neg (by norm_num)]
      norm_num [add]
  rw [divisor]
  by_cases inRange : |d| ≤ a.largest width
  · rw [div_of_value found (value?_ofRat inRange) (by linarith)]
    exact upTo_ofRat (div_nonneg up (by linarith)) (div_le_one_of_le₀ (by linarith) (by linarith))
  · rw [ofRat_beyond (by linarith) inRange, eq_ofRat found, ofRat_inRange (inRange_of_value found)]
    exact upTo_ofRat (le_refl 0) zero_le_one

theorem values_of_isModerate {caps : EngagementCaps (Extended a width)}
    (moderate : weights.IsModerate caps) :
    ∃ (peak : ℚ) (w : Weights ℚ), caps.peak.value? = some peak ∧
      (∀ signal, (weights.get signal).value? = some (w.get signal)) ∧
      weights.total.value? =
        some (w.similarity + w.temporal + w.diversity + w.engagement + w.privacy) ∧
      w.similarity + w.temporal + peak * w.engagement + w.privacy + w.diversity ≤
        a.largest width := by
  obtain ⟨sum, found⟩ := isFinite_iff.1 moderate.peak
  have inRange := (abs_le.1 (inRange_of_value found)).2
  obtain ⟨_, diversity, four, hasDiversity, rfl⟩ := values_of_add found
  obtain ⟨_, privacy, three, hasPrivacy, rfl⟩ := values_of_add four
  obtain ⟨_, _, two, hasEngaged, rfl⟩ := values_of_add three
  obtain ⟨similarity, temporal, hasSimilarity, hasTemporal, rfl⟩ := values_of_add two
  obtain ⟨peak, engagement, isPeak, hasEngagement, rfl⟩ := values_of_mul hasEngaged
  refine ⟨peak, ⟨similarity, temporal, diversity, engagement, privacy⟩, isPeak,
    fun signal => by cases signal <;> assumption, ?_, inRange⟩
  -- The other sum has the same weights as its parts.
  obtain ⟨total, isTotal⟩ := isFinite_iff.1 moderate.total
  rw [isTotal]
  obtain ⟨_, _, four', isPrivacy, rfl⟩ := values_of_add isTotal
  obtain ⟨_, _, three', isEngagement, rfl⟩ := values_of_add four'
  obtain ⟨_, _, two', isDiversity, rfl⟩ := values_of_add three'
  obtain ⟨_, _, isSimilarity, isTemporal, rfl⟩ := values_of_add two'
  cases isPrivacy.symm.trans hasPrivacy
  cases isEngagement.symm.trans hasEngagement
  cases isDiversity.symm.trans hasDiversity
  cases isSimilarity.symm.trans hasSimilarity
  cases isTemporal.symm.trans hasTemporal
  rfl

/-- A final score exceeds neither one nor the highest engagement, as a mean of the signals does not
exceed the highest of them. -/
theorem upTo_finalWith {caps : EngagementCaps (Extended a width)} (proper : weights.IsProper)
    (moderate : weights.IsModerate caps) {peak : ℚ} (highest : caps.peak.value? = some peak)
    (bounded : c.IsBounded peak) (hits : Nat) : UpTo (max 1 peak) (c.finalWith weights hits) := by
  obtain ⟨_, w, isPeak, values, total, inRange⟩ := values_of_isModerate moderate
  cases isPeak.symm.trans highest
  have up (signal : Signal) : 0 ≤ w.get signal :=
    nonneg_of_value (values signal) (proper.up signal)
  have similarity : 0 ≤ w.similarity := up .similarity
  have temporal : 0 ≤ w.temporal := up .temporal
  have diversity : 0 ≤ w.diversity := up .diversity
  have engagement : 0 ≤ w.engagement := up .engagement
  have privacy : 0 ≤ w.privacy := up .privacy
  have peakUp : 0 ≤ peak := by
    obtain ⟨_, _, least, most⟩ := bounded.engagement
    exact least.trans most
  have engaged := mul_nonneg peakUp engagement
  have blend : IsPart (1 * w.similarity + 1 * w.temporal + peak * w.engagement +
        1 * w.privacy + 1 * w.diversity)
      (max 1 peak * w.similarity + max 1 peak * w.temporal + max 1 peak * w.engagement +
        max 1 peak * w.privacy + max 1 peak * w.diversity)
      (c.base weights + c.novelty / (one + ofInt hits * ratio 1 2) * weights.diversity) := by
    -- In the order of the blend, each sum is below the last one, which is in range.
    refine isPart_add (isPart_add (isPart_add (isPart_add
      (isPart_mul bounded.similarity (values .similarity) similarity (le_max_left ..) (by linarith))
      (isPart_mul bounded.temporal (values .temporal) temporal (le_max_left ..) (by linarith))
      (by linarith))
      (isPart_mul bounded.engagement (values .engagement) engagement (le_max_right ..)
        (by linarith)) (by linarith))
      (isPart_mul bounded.privacy (values .privacy) privacy (le_max_left ..) (by linarith))
      (by linarith))
      (isPart_mul (upTo_diversity bounded.novelty hits) (values .diversity) diversity
        (le_max_left ..) (by linarith)) (by linarith)
  have positive : 0 < w.similarity + w.temporal + w.diversity + w.engagement + w.privacy := by
    have above := proper.total
    rw [le_of_value total value?_zero] at above
    exact not_le.1 (of_decide_eq_false above)
  have range : max 1 peak ≤ a.largest width :=
    max_le (abs_le.1 (inRange_of_value (value?_one (a := a) (w := width)))).2
      (abs_le.1 (inRange_of_value highest)).2
  exact upTo_mul_share (upTo_mean blend total positive (by ring) range) bounded.seen

end Candidate

end PersonalFeed
