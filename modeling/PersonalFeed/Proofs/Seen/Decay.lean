import PersonalFeed.Proofs.Number.Reals
import PersonalFeed.Signal.Recency

/-!
The multiplier of a post that was shown, as a curve over real days. From twenty days on it is one
without any power taken, and the curve agrees: it passes one after eighteen days already.
-/

set_option autoImplicit false

namespace PersonalFeed

open Scalar

variable {g : Growth} {days later : ℝ}

noncomputable def recoveryCurve (days : ℝ) : ℝ :=
  0.1 * 2.0 ^ (max days 0 / 18.0) + 0.05 * max days 0

theorem recoveryCurve_eq (days : ℝ) :
    recoveryCurve days = 1 / 10 * 2 ^ (max days 0 / 18) + 1 / 20 * max days 0 := by
  norm_num [recoveryCurve]

theorem recoveryCurve_mono : Monotone recoveryCurve := by
  intro days later below
  have shown : max days 0 ≤ max later 0 := max_le_max_right 0 below
  have power : (2 : ℝ) ^ (max days 0 / 18) ≤ 2 ^ (max later 0 / 18) :=
    Real.rpow_le_rpow_of_exponent_le one_le_two (by linarith)
  rw [recoveryCurve_eq, recoveryCurve_eq]
  linarith

theorem recoveryCurve_of_nonpos (past : days ≤ 0) : recoveryCurve days = 1 / 10 := by
  simp [recoveryCurve_eq, max_eq_right past]

theorem tenth_le_recoveryCurve (days : ℝ) : 1 / 10 ≤ recoveryCurve days := by
  have least := recoveryCurve_mono (min_le_left days 0)
  rwa [recoveryCurve_of_nonpos (min_le_right days 0)] at least

theorem one_le_recoveryCurve (long : 18 ≤ days) : 1 ≤ recoveryCurve days := by
  have doubled : recoveryCurve 18 = 11 / 10 := by norm_num [recoveryCurve_eq]
  have atLeast := recoveryCurve_mono long
  rw [doubled] at atLeast
  linarith

/-- Only powers below `20 / 18` are taken, as twenty days alone make up for all that was lost. -/
theorem value_recovery (exact : ∀ x, 0 ≤ x → x < 20 / 18 → g.exp2 x = 2 ^ x) (days : ℝ) :
    (recovery (⟨days⟩ : Unrounded g)).value = min 1 (max (1 / 10) (recoveryCurve days)) := by
  have gained : (larger zero (⟨days⟩ : Unrounded g) * ratio 1 20).value = max days 0 * (1 / 20) := by
    simp [max_comm]
  rw [recovery]
  dsimp only
  split
  · rename_i all
    -- The gain alone is one: that takes twenty days, and the curve was at one before.
    rw [Unrounded.le_iff, gained, Unrounded.value_one] at all
    have long : 18 ≤ days := by
      have gone : 20 ≤ max days 0 := by linarith
      rcases le_max_iff.1 gone with long | none
      · linarith
      · norm_num at none
    rw [max_eq_right (tenth_le_recoveryCurve days), min_eq_left (one_le_recoveryCurve long),
      Unrounded.value_one]
  · rename_i some
    -- The gain is below one, so the age is below twenty days and the power is a known one.
    rw [Unrounded.le_iff, gained, Unrounded.value_one, not_le] at some
    have power : g.exp2 (max days 0 / 18) = 2 ^ (max days 0 / 18) :=
      exact _ (div_nonneg (le_max_right days 0) (by norm_num)) (by linarith)
    rw [Unrounded.value_smaller, Unrounded.value_larger, Unrounded.value_add, gained]
    simp only [Unrounded.value_mul, Unrounded.value_exp2, Unrounded.value_div,
      Unrounded.value_larger, Unrounded.value_zero, Unrounded.value_one, Unrounded.value_ofInt,
      Unrounded.value_ratio, max_comm (0 : ℝ) days]
    push_cast
    rw [power, recoveryCurve_eq, mul_comm (max days 0)]

noncomputable def multiplierAt (g : Growth) (days : ℝ) : ℝ :=
  (seenMultiplier (some ⟨days⟩ : Option (Unrounded g))).value

/-- The multiplier is the curve, cut off at a tenth and at one, also where it is one without a power
taken: all powers from `20 / 18` on may be anything. It recovers steadily, from a tenth for a post
that is shown now or later, to one after eighteen days. -/
theorem seenMultiplier_recovers (exact : ∀ x, 0 ≤ x → x < 20 / 18 → g.exp2 x = 2 ^ x) :
    (∀ days, multiplierAt g days =
      min 1 (max (1 / 10) (1 / 10 * 2 ^ (max days 0 / 18) + 1 / 20 * max days 0))) ∧
    Monotone (multiplierAt g) ∧ (∀ days ≤ 0, multiplierAt g days = 1 / 10) ∧
    (∀ days ≥ 18, multiplierAt g days = 1) ∧
    ∀ days, multiplierAt g days ∈ Set.Icc (1 / 10) 1 := by
  have value (days : ℝ) : multiplierAt g days = min 1 (recoveryCurve days) := by
    rw [multiplierAt, seenMultiplier, value_recovery exact, max_eq_right (tenth_le_recoveryCurve days)]
  refine ⟨fun days => recoveryCurve_eq days ▸ value_recovery exact days,
    fun days later below => ?_, fun days past => ?_, fun days long => ?_, fun days => ?_⟩
  · rw [value, value]
    exact min_le_min_left 1 (recoveryCurve_mono below)
  · rw [value, recoveryCurve_of_nonpos past]
    norm_num
  · rw [value, min_eq_left (one_le_recoveryCurve long)]
  · rw [value]
    exact ⟨le_min (by norm_num) (tenth_le_recoveryCurve days), min_le_left _ _⟩

/-- Laws under which powers from `20 / 18` on come out as zero. -/
noncomputable def Growth.short : Growth :=
  { Growth.exact with exp2 := fun x => if x < 20.0 / 18.0 then Growth.exact.exp2 x else 0 }

/-- Right after nine days, at half a power, and right after forty, where the power would be zero. -/
theorem seenMultiplier_recovers_of_short :
    (∀ x, 0 ≤ x → x < 20 / 18 → Growth.short.exp2 x = 2 ^ x) ∧ Growth.short.exp2 (40 / 18) = 0 ∧
      multiplierAt .short 9 = min 1 (max (1 / 10) (1 / 10 * 2 ^ (1 / 2 : ℝ) + 9 / 20)) ∧
      multiplierAt .short 40 = 1 := by
  have exact : ∀ x, 0 ≤ x → x < 20 / 18 → Growth.short.exp2 x = 2 ^ x := fun x _ small =>
    if_pos (by norm_num; linarith)
  obtain ⟨curve, -, -, full, -⟩ := seenMultiplier_recovers exact
  refine ⟨exact, if_neg (by norm_num), ?_, full 40 (by norm_num)⟩
  rw [curve]
  norm_num

end PersonalFeed
