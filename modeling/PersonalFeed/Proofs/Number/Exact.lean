import Mathlib.Data.Rat.Floor
import Mathlib.Tactic.GCongr
import Mathlib.Tactic.Positivity
import PersonalFeed.Proofs.Cache.Overrides
import PersonalFeed.Proofs.Json.Tokens
import PersonalFeed.Proofs.Ranking.Signs
import PersonalFeed.Proofs.Ranking.Specification

/-!
Rational numbers as scores. What has no rational value is approximated. Numbers of at most six
decimal places are written so that they are read back, any others as fractions in lowest terms, so
no two are written alike.
-/

set_option autoImplicit false

namespace PersonalFeed

/-- Growth in many small steps, and growth by whole powers of two with a straight line between
them. -/
instance : Exponential ℚ where
  exp x := (1 + x / 1024) ^ 1024
  exp2 x := 2 ^ ⌊x⌋ * (1 + Int.fract x)
  leastNormal := 1 / 2 ^ 1022

def Exact.roundHalfEven (x : ℚ) : Int :=
  if 1 / 2 < Int.fract x ∨ (Int.fract x = 1 / 2 ∧ ⌊x⌋ % 2 = 1) then ⌊x⌋ + 1 else ⌊x⌋

/-- A whole number of millionths is written as such. -/
def Exact.text (x : ℚ) : String :=
  if x.den ∣ 10 ^ 6 then
    (if x.num < 0 then "-" else "") ++ toString (x.num.natAbs * (10 ^ 6 / x.den)) ++ "e-6"
  else toString x.num ++ "/" ++ toString x.den

instance : Numeral ℚ where
  ofDecimal negative digits power := (if negative then -1 else 1) * digits * 10 ^ power
  infinite := 0
  undefined := 0
  text := Exact.text
  roundPlaces places x := Exact.roundHalfEven (x * 10 ^ places) / 10 ^ places
  toInt? x := if x.den = 1 then some x.num else none
  floor? x := some ⌊x⌋

instance : Score ℚ where

namespace Exact

@[simp] theorem isNegative_eq_false (x : ℚ) : Scalar.isNegative x = false ↔ 0 ≤ x := by
  rw [Scalar.isNegative, zero_eq]
  exact decide_eq_false_iff_not.trans not_lt

@[simp] theorem le_eq_false (x y : ℚ) : Scalar.le x y = false ↔ y < x :=
  decide_eq_false_iff_not.trans not_le

theorem roundHalfEven_mono {x y : ℚ} (below : x ≤ y) : roundHalfEven x ≤ roundHalfEven y := by
  have atLeast : ⌊y⌋ ≤ roundHalfEven y := by
    unfold roundHalfEven
    split <;> omega
  have atMost : roundHalfEven x ≤ ⌊x⌋ + 1 := by
    unfold roundHalfEven
    split <;> omega
  rcases lt_or_eq_of_le (Int.floor_le_floor below) with less | same
  · omega
  · -- Between the same two whole numbers, what goes up for `x` goes up for `y`.
    have rest : Int.fract x ≤ Int.fract y := by
      unfold Int.fract
      rw [same]
      linarith
    by_cases up : 1 / 2 < Int.fract x ∨ (Int.fract x = 1 / 2 ∧ ⌊x⌋ % 2 = 1)
    · have goes : 1 / 2 < Int.fract y ∨ (Int.fract y = 1 / 2 ∧ ⌊y⌋ % 2 = 1) := by
        rcases up with more | ⟨half, odd⟩
        · exact .inl (more.trans_le rest)
        · rcases lt_or_eq_of_le (half ▸ rest) with more | equal
          · exact .inl more
          · exact .inr ⟨equal.symm, same ▸ odd⟩
      rw [roundHalfEven, roundHalfEven, if_pos up, if_pos goes, same]
    · rw [roundHalfEven, if_neg up, same]
      exact atLeast

theorem roundPlaces_mono (places : Nat) {x y : ℚ} (below : x ≤ y) :
    Numeral.roundPlaces places x ≤ Numeral.roundPlaces places y := by
  have scaled : x * 10 ^ places ≤ y * 10 ^ places := by gcongr
  have whole := roundHalfEven_mono scaled
  change (roundHalfEven _ : ℚ) / _ ≤ (roundHalfEven _ : ℚ) / _
  gcongr

theorem roundPlaces_intCast (places : Nat) (n : Int) : Numeral.roundPlaces places (n : ℚ) = n := by
  have scaled : (n : ℚ) * 10 ^ places = ((n * 10 ^ places : Int) : ℚ) := by push_cast; rfl
  have whole : roundHalfEven ((n * 10 ^ places : Int) : ℚ) = n * 10 ^ places := by
    rw [roundHalfEven, Int.fract_intCast, Int.floor_intCast, if_neg (by norm_num)]
  change (roundHalfEven _ : ℚ) / _ = _
  rw [scaled, whole]
  push_cast
  field_simp

theorem toList_text_of_dvd {x : ℚ} (whole : x.den ∣ 10 ^ 6) :
    (text x).toList =
      if x.num < 0 then '-' :: (Nat.toDigits 10 (x.num.natAbs * (10 ^ 6 / x.den)) ++ "e-6".toList)
      else Nat.toDigits 10 (x.num.natAbs * (10 ^ 6 / x.den)) ++ "e-6".toList := by
  have digits (n : Nat) : (toString n).toList = Nat.toDigits 10 n := Nat.toList_repr
  rw [text, if_pos whole, String.toList_append, String.toList_append, digits]
  split <;> rfl

theorem toList_text_of_not_dvd {x : ℚ} (broken : ¬ x.den ∣ 10 ^ 6) :
    (text x).toList = (toString x.num).toList ++ '/' :: (toString x.den).toList := by
  rw [text, if_neg broken, String.toList_append, String.toList_append, List.append_assoc]
  rfl

theorem notMem_text_of_dvd {x : ℚ} (whole : x.den ∣ 10 ^ 6) {c : Char}
    (digit : c.isDigit = false) (other : c ∉ "e-6".toList) : c ∉ (text x).toList := by
  have digits := notMem_repr (x.num.natAbs * (10 ^ 6 / x.den)) digit
  rw [Nat.toList_repr] at digits
  have minus : c ≠ '-' := fun same => other (same ▸ by decide)
  rw [toList_text_of_dvd whole]
  split
  · rw [List.mem_cons, List.mem_append, not_or, not_or]
    exact ⟨minus, digits, other⟩
  · rw [List.mem_append, not_or]
    exact ⟨digits, other⟩

theorem notMem_text (x : ℚ) {c : Char} (digit : c.isDigit = false) (slash : c ≠ '/')
    (other : c ∉ "e-6".toList) : c ∉ (text x).toList := by
  by_cases whole : x.den ∣ 10 ^ 6
  · exact notMem_text_of_dvd whole digit other
  · have minus : c ≠ '-' := fun same => other (same ▸ by decide)
    rw [toList_text_of_not_dvd whole, List.mem_append, List.mem_cons, not_or, not_or]
    exact ⟨notMem_toString _ digit minus, slash, notMem_repr _ digit⟩

theorem signed_natAbs_num (x : ℚ) :
    (if decide (x.num < 0) then (-1 : ℚ) else 1) * (x.num.natAbs : ℚ) = x.num := by
  rcases lt_or_ge x.num 0 with below | above
  · rw [decide_eq_true below, if_pos rfl, Nat.cast_natAbs, abs_of_neg below]
    push_cast
    ring
  · rw [decide_eq_false (not_lt.2 above), if_neg Bool.false_ne_true, Nat.cast_natAbs,
      abs_of_nonneg above, one_mul]

theorem ofDecimal_millionths {x : ℚ} (whole : x.den ∣ 10 ^ 6) :
    Numeral.ofDecimal (decide (x.num < 0)) (x.num.natAbs * (10 ^ 6 / x.den)) (-6) = x := by
  obtain ⟨unit, same⟩ := whole
  have units : 10 ^ 6 / x.den = unit := by rw [same, Nat.mul_div_cancel_left _ x.den_pos]
  have millionths : (10 : ℚ) ^ 6 = x.den * unit := by exact_mod_cast same
  have power : (10 : ℚ) ^ (-6 : Int) = 1 / (x.den * unit) := by rw [← millionths]; norm_num
  have den_ne : (x.den : ℚ) ≠ 0 := Nat.cast_ne_zero.2 x.den_ne_zero
  have unit_ne : (unit : ℚ) ≠ 0 := by
    intro none
    rw [none, mul_zero] at millionths
    norm_num at millionths
  calc
    _ = (if decide (x.num < 0) then (-1 : ℚ) else 1) *
          ((x.num.natAbs * (10 ^ 6 / x.den) : Nat) : ℚ) * 10 ^ (-6 : Int) := rfl
    _ = x.num * unit * (1 / (x.den * unit)) := by
      rw [units, Nat.cast_mul, ← mul_assoc, signed_natAbs_num, power]
    _ = x.num / x.den := by field_simp
    _ = x := Rat.num_div_den x

theorem isWritableNumber_of_dvd {x : ℚ} (whole : x.den ∣ 10 ^ 6) : Json.IsWritableNumber x := by
  refine ⟨decide (x.num < 0), _, (toList_text_of_dvd whole).trans ?_,
    Json.readNumber_millionths _ (x.num.natAbs * (10 ^ 6 / x.den)) |>.trans ?_⟩
  · simp only [decide_eq_true_eq]
  · rw [ofDecimal_millionths whole]

end Exact

instance : FaithfulText ℚ where
  notMem x := ⟨Exact.notMem_text x (by decide) (by decide) (by decide),
    Exact.notMem_text x (by decide) (by decide) (by decide)⟩
  text_inj x y _ _ same := by
    have texts : (Exact.text x).toList = (Exact.text y).toList := congrArg String.toList same
    -- Only the text of a fraction has a slash.
    have slash {z : ℚ} (broken : ¬ z.den ∣ 10 ^ 6) : '/' ∈ (Exact.text z).toList := by
      rw [Exact.toList_text_of_not_dvd broken]
      exact List.mem_append_right _ List.mem_cons_self
    have unbroken {z : ℚ} (whole : z.den ∣ 10 ^ 6) : '/' ∉ (Exact.text z).toList :=
      Exact.notMem_text_of_dvd whole (by decide) (by decide)
    by_cases whole : x.den ∣ 10 ^ 6 <;> by_cases whole' : y.den ∣ 10 ^ 6
    · exact Json.eq_of_writeReal (Exact.isWritableNumber_of_dvd whole)
        (Exact.isWritableNumber_of_dvd whole') same
    · exact absurd (texts ▸ slash whole') (unbroken whole)
    · exact absurd (texts ▸ slash whole) (unbroken whole')
    · rw [Exact.toList_text_of_not_dvd whole, Exact.toList_text_of_not_dvd whole'] at texts
      obtain ⟨nums, dens⟩ := split_at_first (notMem_toString x.num (by decide) (by decide))
        (notMem_toString y.num (by decide) (by decide)) texts
      exact Rat.ext (toString_inj nums) (repr_inj dens)

instance : SignRules ℚ where
  le_refl x _ := decide_eq_true (le_refl x)
  add x y := by
    simp only [Exact.isNegative_eq_false]
    exact add_nonneg
  mul x y := by
    simp only [Exact.isNegative_eq_false]
    exact mul_nonneg
  div x y := by
    simp only [Exact.isNegative_eq_false, Exact.le_eq_false, Exact.zero_eq]
    exact fun up positive => div_nonneg up positive.le
  ratio n d up := by
    rw [Exact.isNegative_eq_false, Exact.ratio_eq]
    exact div_nonneg (Int.cast_nonneg up) (Nat.cast_nonneg d)
  above x y := by
    simp only [Exact.isNegative_eq_false, Exact.lt_iff]
    exact fun up above => up.trans above.le
  positive x above := by
    rw [Exact.lt_iff] at above
    exact ⟨(Exact.le_eq_false _ _).2 above, rfl⟩
  least x := by
    have positive : (0 : ℚ) < 1 / 2 ^ 1022 := by positivity
    intro above
    have bound : (1 / 2 ^ 1022 : ℚ) ≤ x := not_lt.1 (of_decide_eq_false above)
    exact (Exact.isNegative_eq_false _).2 (positive.le.trans bound)
  least_up := (Exact.isNegative_eq_false _).2 (by positivity : (0 : ℚ) ≤ 1 / 2 ^ 1022)
  one_add x := by
    simp only [Exact.isNegative_eq_false, Exact.le_eq_false, Exact.zero_eq, Exact.one_eq]
    exact fun up => by linarith
  half k m below := by
    have share : (k : ℚ) / m ≤ 1 := div_le_one_of_le₀ (Nat.cast_le.2 below) (Nat.cast_nonneg m)
    simp only [Exact.isNegative_eq_false, Exact.one_eq, Exact.ratio_eq, Int.cast_natCast]
    push_cast
    linarith

theorem Weights.default_isProper : (Weights.default : Weights ℚ).IsProper where
  up signal := by cases signal <;> decide +kernel
  total := by decide +kernel

end PersonalFeed
