import Mathlib.Algebra.BigOperators.Intervals
import PersonalFeed.Proofs.Number.Extended
import PersonalFeed.Proofs.Results
import PersonalFeed.Vector.Similarity

/-!
Similarity in extended arithmetic. Sums of components are taken by halves, blocks and running sums,
but each entry is added once, so what the entries measure adds up to what the sum measures. The
squares of a vector may add up to infinity, but no length makes a component of the direction exceed
two, so the similarity of finite vectors is always a number.
-/

set_option autoImplicit false

namespace PersonalFeed

open Scalar Extended

/-! ### Sums of components -/

section

variable {C M : Type} [Scalar C] [AddCommMonoid M]

structure IsAdditive (measures : M → C → Prop) : Prop where
  zero : measures 0 zero
  add : ∀ {m n : M} {x y : C}, measures m x → measures n y → measures (m + n) (x + y)

structure Lanes (measures : M → C → Prop) (m : M) (sums : Array C) : Prop where
  size : sums.size = 8
  parts : ∃ part : Nat → M, (∀ i < 8, measures (part i) (sums.getD i zero)) ∧
    ∑ i ∈ Finset.range 8, part i = m

section

variable {measures : M → C → Prop} (additive : IsAdditive measures) {xs : Array C} {μ : Nat → M}
variable (each : ∀ i, measures (μ i) (xs.getD i zero))

include additive each

theorem measures_sequentialSum (start count : Nat) {sum : C} {m : M} (first : measures m sum) :
    measures (m + ∑ i ∈ Finset.Ico start (start + count), μ i)
      (sequentialSum xs start count sum) := by
  induction count generalizing start sum m with
  | zero => simpa [sequentialSum] using first
  | succ count ih =>
    have next := ih (start + 1) (additive.add first (each start))
    rw [Nat.add_right_comm, Nat.add_assoc] at next
    rw [Finset.sum_eq_sum_Ico_succ_bot (by omega), ← add_assoc]
    exact next

theorem lanes_groupSums (start groups : Nat) {sums : Array C} {m : M}
    (lanes : Lanes measures m sums) :
    Lanes measures (m + ∑ i ∈ Finset.Ico start (start + 8 * groups), μ i)
      (groupSums xs start groups sums) := by
  induction groups generalizing start sums m with
  | zero => simpa [groupSums] using lanes
  | succ groups ih =>
    obtain ⟨part, measured, total⟩ := lanes.parts
    have step : Lanes measures (m + ∑ i ∈ Finset.Ico start (start + 8), μ i)
        (sums.mapIdx fun i sum => sum + xs.getD (start + i) zero) := by
      refine ⟨by simpa using lanes.size, fun i => part i + μ (start + i), fun i inside => ?_, ?_⟩
      · have stored : i < sums.size := lanes.size ▸ inside
        have added := additive.add (measured i inside) (each (start + i))
        simpa [Array.getD, stored] using added
      · rw [Finset.sum_add_distrib, total, Finset.sum_Ico_eq_sum_range, Nat.add_sub_cancel_left]
    have later := ih (start + 8) step
    rw [add_assoc, Finset.sum_Ico_consecutive _ (by omega) (by omega)] at later
    rw [show start + 8 * (groups + 1) = start + 8 + 8 * groups by omega]
    exact later

theorem measures_blockSum {start count : Nat} (least : 8 ≤ count)
    (inside : start + count ≤ xs.size) :
    measures (∑ i ∈ Finset.Ico start (start + count), μ i) (blockSum xs start count) := by
  have first : Lanes measures (∑ i ∈ Finset.Ico start (start + 8), μ i)
      (xs.extract start (start + 8)) := by
    refine ⟨by simp; omega, fun i => μ (start + i), fun i small => ?_, ?_⟩
    · have stored : start + i < xs.size := by omega
      have same : (xs.extract start (start + 8)).getD i zero = xs.getD (start + i) zero := by
        have taken : i < min (start + 8) xs.size - start := by omega
        simp [Array.getD, stored, taken]
      exact same ▸ each (start + i)
    · rw [Finset.sum_Ico_eq_sum_range, Nat.add_sub_cancel_left]
  have lanes := lanes_groupSums additive each (start + 8) (count / 8 - 1) first
  rw [Finset.sum_Ico_consecutive _ (by omega) (by omega)] at lanes
  obtain ⟨part, measured, total⟩ := lanes.parts
  -- The lanes are added in pairs, then the entries that fill no group.
  have pairs := additive.add
    (additive.add (additive.add (measured 0 (by omega)) (measured 1 (by omega)))
      (additive.add (measured 2 (by omega)) (measured 3 (by omega))))
    (additive.add (additive.add (measured 4 (by omega)) (measured 5 (by omega)))
      (additive.add (measured 6 (by omega)) (measured 7 (by omega))))
  have eight : part 0 + part 1 + (part 2 + part 3) + (part 4 + part 5 + (part 6 + part 7)) =
      ∑ i ∈ Finset.Ico start (start + 8 + 8 * (count / 8 - 1)), μ i := by
    rw [← total]
    simp only [Finset.sum_range_succ, Finset.sum_range_zero, zero_add, add_assoc]
  rw [eight, show start + 8 + 8 * (count / 8 - 1) = start + count / 8 * 8 by omega] at pairs
  have whole := measures_sequentialSum additive each (start + count / 8 * 8) (count % 8) pairs
  rw [Finset.sum_Ico_consecutive _ (by omega) (by omega),
    show start + count / 8 * 8 + count % 8 = start + count by omega] at whole
  exact whole

theorem measures_pairwiseSum (start count : Nat) (inside : start + count ≤ xs.size) :
    measures (∑ i ∈ Finset.Ico start (start + count), μ i) (pairwiseSum xs start count) := by
  -- Few entries are added one by one, more of them in one block, and many by halves.
  fun_induction pairwiseSum xs start count with
  | case1 start count few =>
    have sum := measures_sequentialSum additive each start count additive.zero
    rwa [zero_add] at sum
  | case2 start count many block => exact measures_blockSum additive each (by omega) inside
  | case3 start count many large half first second =>
    have halves := additive.add (first (by omega)) (second (by omega))
    rw [Finset.sum_Ico_consecutive _ (by omega) (by omega),
      show start + half + (count - half) = start + count by omega] at halves
    exact halves

theorem measures_totalSum :
    measures (∑ i ∈ Finset.range xs.size, μ i) (totalSum xs) := by
  have sum := additive.add additive.zero
    (measures_pairwiseSum additive each 0 xs.size (by omega))
  rwa [zero_add, Nat.zero_add, ← Finset.range_eq_Ico] at sum

end

end

/-! ### Components -/

namespace Embedding

variable {C : Type} [Scalar C] {v u : Embedding C} {i : Nat}

theorem getD_outside (outside : ¬ i < vectorWidth) : v.components.getD i zero = zero := by
  simp [Array.getD, v.size_eq, outside]

theorem getD_map {f : C → C} (inside : i < vectorWidth) :
    (v.map f).components.getD i zero = f (v.components.getD i zero) := by
  simp [map, Array.getD, v.size_eq, inside]

theorem getD_zipWith (f : C → C → C) (i : Nat) :
    (v.zipWith f u).components.getD i zero =
      if i < vectorWidth then f (v.components.getD i zero) (u.components.getD i zero) else zero := by
  by_cases inside : i < vectorWidth
  · simp [zipWith, Array.getD, v.size_eq, u.size_eq, inside]
  · simp [zipWith, Array.getD, v.size_eq, u.size_eq, inside]

end Embedding

/-! ### Cosines -/

variable {a : Arithmetic} {width : Width}

def Embedding.IsFinite {C : Type} [Scalar C] (v : Embedding C) : Prop :=
  ∀ x ∈ v.components, isFinite x = true

namespace Extended

/-- A number from `-bound` up to `bound`. -/
def Within (bound : ℚ) (x : Extended a width) : Prop := ∃ q, x.value? = some q ∧ |q| ≤ bound

theorem isAdditive_ofRat :
    IsAdditive fun (q : ℚ) (x : Extended a width) => 0 ≤ q ∧ x = ofRat q where
  zero := ⟨le_refl 0, zero_eq⟩
  add := by
    rintro q r _ _ ⟨first, rfl⟩ ⟨second, rfl⟩
    exact ⟨add_nonneg first second, ofRat_add first second⟩

theorem isAdditive_within :
    IsAdditive fun (count : Nat) (x : Extended a width) =>
      count ≤ vectorWidth → Within (4 * count) x where
  zero _ := ⟨0, value?_zero, by simp⟩
  add := by
    intro m n x y first second few
    obtain ⟨q, left, small⟩ := first (by omega)
    obtain ⟨r, right, little⟩ := second (by omega)
    have sum : |q + r| ≤ 4 * ((m + n : Nat) : ℚ) := by
      push_cast
      linarith [abs_add_le q r]
    have wide : (4 * ((m + n : Nat) : ℚ)) ≤ a.largest width := by
      exact_mod_cast le_trans (by omega) (a.wide width)
    refine ⟨q + r, ?_, sum⟩
    rw [add_of_value left right, value?_ofRat (sum.trans wide)]

theorem within_mul {x y : Extended a width} (left : Within 2 x) (right : Within 2 y) :
    Within 4 (x * y) := by
  obtain ⟨q, isLeft, small⟩ := left
  obtain ⟨r, isRight, little⟩ := right
  have product : |q * r| ≤ 4 := by
    rw [abs_mul]
    nlinarith [abs_nonneg q, abs_nonneg r]
  have bounds := abs_le.1 product
  refine ⟨q * r, ?_, product⟩
  rw [mul_of_value isLeft isRight, value?_ofRat (inRange_of_le bounds.1 bounds.2)]

theorem value?_minusOne : (ofInt (-1) : Extended a width).value? = some (-1) := by
  have same : ((-1 : Int) : ℚ) / (1 : Nat) = -1 := by norm_num
  rw [ofInt, ratio_eq, same]
  exact value?_ofRat (inRange_of_le (by norm_num) (by norm_num))

theorem within_clip {x : Extended a width} (number : isNaN x = false) : Within 1 (clip x) := by
  have least : Within 1 (ofInt (-1) : Extended a width) := ⟨-1, value?_minusOne, by norm_num⟩
  have most : Within 1 (one : Extended a width) := ⟨1, value?_one, by norm_num⟩
  unfold clip
  split
  · exact least
  · split
    · exact most
    · rename_i notBelow notAbove
      -- Neither comparison held. Of the infinities each is on the far side of a limit, and
      -- undefined is ruled out.
      cases x with
      | finite q =>
        rw [lt_of_value rfl value?_minusOne, decide_eq_true_eq, not_lt] at notBelow
        rw [lt_of_value value?_one rfl, decide_eq_true_eq, not_lt] at notAbove
        exact ⟨q, rfl, abs_le.2 ⟨notBelow, notAbove⟩⟩
      | infinite negative =>
        obtain ⟨_, one⟩ := one_finite (a := a) (w := width)
        rw [eq_ofRat value?_minusOne, ofRat_inRange (inRange_of_value value?_minusOne)] at notBelow
        rw [one] at notAbove
        cases negative with
        | true => exact absurd rfl notBelow
        | false => exact absurd rfl notAbove
      | undefined => cases number

end Extended

namespace Embedding

variable {v u : Embedding (Extended a width)}

def entry (v : Embedding (Extended a width)) (i : Nat) : ℚ :=
  ((v.components.getD i zero).value?).getD 0

theorem value?_entry (finite : v.IsFinite) (i : Nat) :
    (v.components.getD i zero).value? = some (v.entry i) := by
  unfold entry
  by_cases inside : i < v.components.size
  · have member : v.components.getD i zero ∈ v.components := by
      simp [Array.getD, inside]
    obtain ⟨q, found⟩ := isFinite_iff.1 (finite _ member)
    rw [found, Option.getD_some]
  · have missing : v.components.getD i zero = zero := by simp [Array.getD, inside]
    rw [missing, value?_zero, Option.getD_some]

theorem entry_outside {i : Nat} (outside : ¬ i < vectorWidth) : v.entry i = 0 := by
  have missing : v.components.getD i zero = zero := by simp [Array.getD, v.size_eq, outside]
  rw [entry, missing, value?_zero, Option.getD_some]

theorem dot_self (finite : v.IsFinite) :
    v.dot v = ofRat (∑ i ∈ Finset.range vectorWidth, v.entry i ^ 2) := by
  have each (i : Nat) : 0 ≤ v.entry i ^ 2 ∧
      (v.zipWith (· * ·) v).components.getD i zero = ofRat (v.entry i ^ 2) := by
    refine ⟨sq_nonneg _, ?_⟩
    rw [getD_zipWith]
    split
    · rw [mul_of_value (value?_entry finite i) (value?_entry finite i), sq]
    · rw [entry_outside ‹_›, zero_eq]
      norm_num
  have sum := measures_totalSum isAdditive_ofRat each
  rw [(v.zipWith (· * ·) v).size_eq] at sum
  exact sum.2

/-- The root of a sum of squares: a finite one that is not below half of any entry, or infinity. -/
theorem norm_of_finite (finite : v.IsFinite) :
    (∃ s, v.norm.value? = some s ∧ ∀ i, |v.entry i| ≤ 2 * s) ∨ v.norm = infinite false := by
  -- Every square is a part of the sum.
  have part (i : Nat) : v.entry i ^ 2 ≤ ∑ i ∈ Finset.range vectorWidth, v.entry i ^ 2 := by
    by_cases inside : i < vectorWidth
    · exact Finset.single_le_sum (f := fun i => v.entry i ^ 2) (fun _ _ => sq_nonneg _)
        (Finset.mem_range.2 inside)
    · rw [entry_outside inside, zero_pow two_ne_zero]
      exact Finset.sum_nonneg fun _ _ => sq_nonneg _
  rw [norm, dot_self finite]
  generalize ∑ i ∈ Finset.range vectorWidth, v.entry i ^ 2 = total at part ⊢
  have up : 0 ≤ total := (sq_nonneg _).trans (part 0)
  have bound (i : Nat) : |v.entry i| ≤ 2 * a.sqrt total :=
    abs_le_of_sq_le_sq ((part i).trans (a.le_sqrt total up)) (by linarith [a.sqrt_nonneg total])
  -- The sum may leave the range, and so may what stands for its root.
  by_cases inRange : |total| ≤ a.largest width
  · have root : Rooted.sqrt (ofRat total : Extended a width) = ofRat (a.sqrt total) := by
      rw [ofRat_inRange inRange]
      exact if_neg (not_lt.2 up)
    rw [root]
    by_cases rootInRange : |a.sqrt total| ≤ a.largest width
    · exact .inl ⟨_, value?_ofRat rootInRange, bound⟩
    · exact .inr (ofRat_beyond (a.sqrt_nonneg total) rootInRange)
  · rw [ofRat_beyond up inRange]
    exact .inr rfl

theorem within_normalize (finite : v.IsFinite) (i : Nat) :
    Within 2 (v.normalize.components.getD i zero) := by
  have nothing : Within 2 (zero : Extended a width) := ⟨0, value?_zero, by simp⟩
  by_cases inside : i < vectorWidth
  · rw [normalize, getD_map inside]
    have found := value?_entry finite i
    rcases norm_of_finite finite with ⟨s, length, bound⟩ | unbounded
    · have test : lt zero v.norm = decide (0 < s) := lt_of_value value?_zero length
      split
      · have positive : 0 < s := of_decide_eq_true (test.symm.trans ‹_›)
        have share : |v.entry i / s| ≤ 2 := by
          rw [abs_div, abs_of_pos positive, div_le_iff₀ positive]
          exact bound i
        have bounds := abs_le.1 share
        refine ⟨_, ?_, share⟩
        rw [div_of_value found length positive.ne']
        exact value?_ofRat (inRange_of_le (by linarith) (by linarith))
      -- A vector without a length has no components either.
      · rename_i least
        have none : ¬ 0 < s := fun positive => least (test.trans (decide_eq_true positive))
        have gone : v.entry i = 0 := abs_nonpos_iff.1 (by linarith [bound i])
        rw [div_of_value found value?_one one_ne_zero, gone, zero_div, ← zero_eq]
        exact nothing
    · have positive : lt zero v.norm = true := by
        rw [unbounded, zero_finite.choose_spec]
        rfl
      rw [if_pos positive, unbounded, eq_ofRat found, ofRat_inRange (inRange_of_value found)]
      change Within 2 (ofRat 0)
      rw [← zero_eq]
      exact nothing
  · rw [getD_outside inside]
    exact nothing

theorem within_cosine (first : v.IsFinite) (second : u.IsFinite) : Within 1 (v.cosine u) := by
  -- One product measures one four, so the sum is in range for as many as there are.
  have each (i : Nat) : 1 ≤ vectorWidth →
      Within (4 * (1 : Nat))
        ((u.normalize.zipWith (· * ·) v.normalize).components.getD i zero) := by
    intro _
    rw [getD_zipWith, Nat.cast_one, mul_one]
    split
    · exact within_mul (within_normalize second i) (within_normalize first i)
    · exact ⟨0, value?_zero, by simp⟩
  have sum := measures_totalSum isAdditive_within each
  rw [(u.normalize.zipWith (· * ·) v.normalize).size_eq, Finset.sum_const, Finset.card_range,
    nsmul_eq_mul, mul_one, Nat.cast_id] at sum
  obtain ⟨q, found, -⟩ := sum (le_refl _)
  exact within_clip (not_isNaN found)

end Embedding

end PersonalFeed
