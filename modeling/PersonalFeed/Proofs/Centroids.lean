import Mathlib.Algebra.BigOperators.Fin
import Mathlib.Algebra.BigOperators.Ring.List
import Mathlib.Algebra.Order.BigOperators.Group.List
import PersonalFeed.Proofs.Number.Exact
import PersonalFeed.Proofs.Ranking.Cosines
import PersonalFeed.Vector.Stored

/-!
Centroids in exact arithmetic. Weights are accepted if they are one a row and add up to a positive
number, so a single one may be negative. What they weigh is a mean as long as none is.
-/

set_option autoImplicit false

namespace PersonalFeed

open Scalar

/-! ### Means -/

section

variable {α : Type} {items : List α} {weight : α → ℚ}

/-- Something is no larger than the mean, if nothing counts by a negative weight. -/
theorem exists_le_mean (value : α → ℚ) (up : ∀ item ∈ items, 0 ≤ weight item)
    (positive : 0 < (items.map weight).sum) :
    ∃ item ∈ items, value item ≤
      (items.map fun item => value item * weight item).sum / (items.map weight).sum := by
  by_contra! above
  obtain ⟨item, member, counts⟩ : ∃ item ∈ items, 0 < weight item := by
    obtain ⟨item, member, more⟩ := List.exists_lt_of_sum_lt (f := fun _ : α => (0 : ℚ)) weight
      (by simpa using positive)
    exact ⟨item, member, more⟩
  -- Each value weighs at least what the mean does, and one that counts weighs more.
  have less := List.sum_lt_sum _ _
    (fun item member => mul_le_mul_of_nonneg_right (above item member).le (up item member))
    ⟨item, member, mul_lt_mul_of_pos_right (above item member) counts⟩
  rw [List.sum_map_mul_left, div_mul_cancel₀ _ positive.ne'] at less
  exact lt_irrefl _ less

theorem exists_mean_le (value : α → ℚ) (up : ∀ item ∈ items, 0 ≤ weight item)
    (positive : 0 < (items.map weight).sum) :
    ∃ item ∈ items, (items.map fun item => value item * weight item).sum /
      (items.map weight).sum ≤ value item := by
  obtain ⟨item, member, below⟩ := exists_le_mean (fun item => -value item) up positive
  have opposite : (items.map fun item => -value item * weight item).sum =
      -(items.map fun item => value item * weight item).sum := by
    simp only [neg_mul, List.sum_neg, List.map_map, Function.comp_def]
  rw [opposite, neg_div, neg_le_neg_iff] at below
  exact ⟨item, member, below⟩

end

theorem totalSum_exact (numbers : List ℚ) : totalSum numbers.toArray = numbers.sum := by
  have additive : IsAdditive (Eq : ℚ → ℚ → Prop) :=
    ⟨Exact.zero_eq.symm, fun first second => congrArg₂ (· + ·) first second⟩
  have sum := measures_totalSum additive fun i => Eq.refl (numbers.toArray.getD i zero)
  rw [← sum, List.size_toArray, Finset.sum_range, ← Fin.sum_univ_getElem]
  exact Finset.sum_congr rfl fun i _ => by simp [Array.getD]

namespace Embedding

variable {R : Type} {rows : List (Embedding ℚ)} {weights : List ℚ} {v w : Embedding ℚ} {i : Nat}

/-! ### Components -/

def component (v : Embedding ℚ) (i : Nat) : ℚ := v.components.getD i zero

/-- A vector between some rows: no component is below that of every row, or above that of every
row. -/
def IsBetween (v : Embedding ℚ) (rows : List (Embedding ℚ)) : Prop :=
  ∀ i < vectorWidth, (∃ row ∈ rows, row.component i ≤ v.component i) ∧
    ∃ row ∈ rows, v.component i ≤ row.component i

theorem ext_component (same : ∀ i < vectorWidth, v.component i = w.component i) : v = w := by
  obtain ⟨left, size⟩ := v
  obtain ⟨right, size'⟩ := w
  congr 1
  refine Array.ext (size.trans size'.symm) fun i inside inside' => ?_
  simpa [component, Array.getD, inside, inside'] using same i (size ▸ inside)

theorem component_map (f : ℚ → ℚ) (inside : i < vectorWidth) :
    (v.map f).component i = f (v.component i) := getD_map inside

theorem component_replicate (x : ℚ) (inside : i < vectorWidth) :
    (replicate x).component i = x := by
  simp [component, replicate, Array.getD, inside]

theorem component_sum (rows : List (Embedding ℚ)) (inside : i < vectorWidth) :
    (sum rows).component i = (rows.map fun row => row.component i).sum := by
  have run (total : Embedding ℚ) :
      (rows.foldl (fun total row => total.zipWith (· + ·) row) total).component i =
        total.component i + (rows.map fun row => row.component i).sum := by
    induction rows generalizing total with
    | nil => simp
    | cons row rest ih =>
      have step : (total.zipWith (· + ·) row).component i =
          total.component i + row.component i := (getD_zipWith _ i).trans (if_pos inside)
      rw [List.foldl_cons, ih, step, List.map_cons, List.sum_cons, add_assoc]
  rw [sum, run, component_replicate _ inside, Exact.zero_eq, zero_add]

theorem component_mean (rows : List (Embedding ℚ)) (inside : i < vectorWidth) :
    (mean rows).component i = (rows.map fun row => row.component i).sum / rows.length := by
  rw [mean, component_map _ inside, component_sum rows inside, Exact.ofInt_eq, Int.cast_natCast]

theorem component_weightedMean (each : weights.length = rows.length) (inside : i < vectorWidth) :
    (weightedMean rows weights).component i =
      ((rows.zip weights).map fun pair => pair.1.component i * pair.2).sum /
        ((rows.zip weights).map Prod.snd).sum := by
  rw [weightedMean, component_map _ inside, component_sum _ inside, totalSum_exact,
    List.map_snd_zip each.le, ← List.map_uncurry_zip_eq_zipWith, List.map_map]
  congr 2
  exact List.map_congr_left fun pair _ => component_map (v := pair.1) (· * pair.2) inside

/-! ### Weights -/

/-- Weights are accepted if they are one a row and add up to a positive number. -/
theorem centroid_ok_iff : centroid (R := R) rows (some weights) = .ok v ↔
    (rows ≠ [] ∧ weights.length = rows.length ∧ 0 < weights.sum) ∧
      weightedMean rows weights = v := by
  have test : le (totalSum weights.toArray) zero = true ↔ ¬ 0 < weights.sum := by
    rw [totalSum_exact, Exact.zero_eq, not_lt]
    exact decide_eq_true_iff
  simp only [centroid, test, List.isEmpty_iff]
  grind

theorem mean_of_equal {weight : ℚ} (nonzero : weight ≠ 0) :
    weightedMean rows (List.replicate rows.length weight) = mean rows := by
  have each : (List.replicate rows.length weight).length = rows.length := List.length_replicate
  refine ext_component fun i inside => ?_
  have same : ((rows.zip (List.replicate rows.length weight)).map fun pair =>
      pair.1.component i * pair.2).sum = (rows.map fun row => row.component i).sum * weight := by
    rw [← List.sum_map_mul_right]
    conv_rhs => rw [← List.map_fst_zip each.ge, List.map_map]
    refine congrArg List.sum (List.map_congr_left fun pair member => ?_)
    rw [List.eq_of_mem_replicate (List.of_mem_zip member).2]
    rfl
  rw [component_weightedMean each inside, component_mean rows inside, same,
    List.map_snd_zip each.le, List.sum_replicate, nsmul_eq_mul, mul_div_mul_right _ _ nonzero]

theorem weightedMean_of_perm {rows' : List (Embedding ℚ)} {weights' : List ℚ}
    (each : weights.length = rows.length) (each' : weights'.length = rows'.length)
    (shuffled : (rows'.zip weights').Perm (rows.zip weights)) :
    weightedMean rows' weights' = weightedMean rows weights := by
  refine ext_component fun i inside => ?_
  rw [component_weightedMean each inside, component_weightedMean each' inside,
    (shuffled.map _).sum_eq, (shuffled.map Prod.snd).sum_eq]

theorem isBetween_weightedMean (each : weights.length = rows.length) (positive : 0 < weights.sum)
    (up : ∀ weight ∈ weights, 0 ≤ weight) : (weightedMean rows weights).IsBetween rows := by
  intro i inside
  have total : ((rows.zip weights).map Prod.snd).sum = weights.sum := by
    rw [List.map_snd_zip each.le]
  have each' : ∀ pair ∈ rows.zip weights, 0 ≤ pair.2 :=
    fun pair member => up _ (List.of_mem_zip member).2
  rw [component_weightedMean each inside]
  obtain ⟨low, isLow, below⟩ :=
    exists_le_mean (fun pair => pair.1.component i) each' (total ▸ positive)
  obtain ⟨high, isHigh, above⟩ :=
    exists_mean_le (fun pair => pair.1.component i) each' (total ▸ positive)
  exact ⟨⟨low.1, (List.of_mem_zip isLow).1, below⟩, ⟨high.1, (List.of_mem_zip isHigh).1, above⟩⟩

def spikes (weights : List ℚ) : List (Embedding ℚ) :=
  weights.map fun weight => replicate (if weight < 0 then 1 else 0)

/-- With a negative weight the weighted mean of the spikes is below them all. -/
theorem not_isBetween_spikes (positive : 0 < weights.sum) {weight : ℚ} (member : weight ∈ weights)
    (down : weight < 0) : ¬ (weightedMean (spikes weights) weights).IsBetween (spikes weights) := by
  have inside : 0 < vectorWidth := by decide
  have each : weights.length = (spikes weights).length := (List.length_map _).symm
  intro between
  obtain ⟨⟨row, isRow, below⟩, -⟩ := between 0 inside
  have up : 0 ≤ row.component 0 := by
    obtain ⟨weight, -, rfl⟩ := List.mem_map.1 isRow
    rw [component_replicate _ inside]
    split <;> norm_num
  -- A spike counts its weight only if that is negative, so the sum is that of the negative weights.
  have negative : ((spikes weights).zip weights).map
      (fun pair => pair.1.component 0 * pair.2) = weights.map fun weight => min weight 0 := by
    change List.map (Function.uncurry fun (row : Embedding ℚ) weight =>
      row.component 0 * weight) _ = _
    rw [List.map_uncurry_zip_eq_zipWith, spikes, List.zipWith_map_left, List.zipWith_self]
    refine List.map_congr_left fun weight _ => ?_
    rw [component_replicate _ inside]
    split
    · rw [one_mul, min_eq_left (le_of_lt ‹_›)]
    · rw [zero_mul, min_eq_right (not_lt.1 ‹_›)]
  have less : (weights.map fun weight => min weight 0).sum < 0 := by
    have less := List.sum_lt_sum (fun weight => min weight 0) (fun _ : ℚ => (0 : ℚ))
      (fun weight _ => min_le_right weight 0) ⟨weight, member, min_lt_of_left_lt down⟩
    simpa using less
  rw [component_weightedMean each inside, negative, List.map_snd_zip each.le] at below
  exact absurd (up.trans below) (not_le.2 (div_neg_of_neg_of_pos less positive))

theorem centroidOfStored_eq {stored storedWeights : Json ℚ} {read : Tensor ℚ}
    (areRows : rowsOfStored stored = .ok rows) (areWeights : componentsOf storedWeights = .ok read)
    (flat : read.flatRow? = some weights) :
    centroidOfStored stored (some storedWeights) =
      (centroid rows (some weights)).mapError Fault.refused := by
  rw [centroidOfStored, areRows]
  change (if rows.isEmpty then _ else _) = _
  split
  · rw [centroid, if_pos ‹_›]
    rfl
  · rw [areWeights]
    dsimp only [Except.bind, bind]
    rw [flat]

/-- A weighted centroid is there if the weights are one a row and add up to a positive number. It is
the mean if they are equal, does not depend on the order of the rows with their weights, and is
between the rows, whatever they are, exactly if no weight is negative. -/
theorem centroid_isAverage (weights : List ℚ) :
    (∀ rows, (∃ v, centroid (R := ℚ) rows (some weights) = .ok v) ↔
      rows ≠ [] ∧ weights.length = rows.length ∧ 0 < weights.sum) ∧
    (∀ rows v, centroid (R := ℚ) rows (some weights) = .ok v →
      (∀ weight, weights = List.replicate rows.length weight →
        centroid (R := ℚ) rows none = .ok v) ∧
      (∀ rows' weights', weights'.length = rows'.length →
        (rows'.zip weights').Perm (rows.zip weights) →
        centroid (R := ℚ) rows' (some weights') = .ok v) ∧
      ∀ (stored storedWeights : Json ℚ) (read : Tensor ℚ), rowsOfStored stored = .ok rows →
        componentsOf storedWeights = .ok read → read.flatRow? = some weights →
        centroidOfStored stored (some storedWeights) = .ok v) ∧
    (0 < weights.sum →
      ((∀ rows v, centroid (R := ℚ) rows (some weights) = .ok v → v.IsBetween rows) ↔
        ∀ weight ∈ weights, 0 ≤ weight)) := by
  refine ⟨fun rows => ?_, fun rows v found => ?_, fun positive => ?_⟩
  · simp only [centroid_ok_iff, exists_and_left, exists_eq', and_true]
  · obtain ⟨⟨some, each, positive⟩, rfl⟩ := centroid_ok_iff.1 found
    refine ⟨?_, fun rows' weights' each' shuffled => ?_, fun stored storedWeights read areRows
      areWeights flat => ?_⟩
    · rintro weight rfl
      have nonzero : weight ≠ 0 := by
        rintro rfl
        simp at positive
      rw [centroid, if_neg (by simpa using some), mean_of_equal nonzero]
    · refine centroid_ok_iff.2 ⟨⟨?_, each', ?_⟩, weightedMean_of_perm each each' shuffled⟩
      · rintro rfl
        rcases List.zip_eq_nil_iff.1 shuffled.nil_eq.symm with none | none
        · exact some none
        · exact positive.ne' (by rw [none, List.sum_nil])
      · rwa [← List.map_snd_zip each'.le, (shuffled.map Prod.snd).sum_eq, List.map_snd_zip each.le]
    · rw [centroidOfStored_eq areRows areWeights flat, found]
      rfl
  · refine ⟨fun between weight member => ?_, fun up rows v found => ?_⟩
    · -- A negative weight shows on rows that differ where it stands.
      by_contra! down
      refine not_isBetween_spikes positive member down
        (between _ _ (centroid_ok_iff.2 ⟨⟨?_, (List.length_map _).symm, positive⟩, rfl⟩))
      exact fun none => List.ne_nil_of_mem member (List.map_eq_nil_iff.1 none)
    · obtain ⟨⟨-, each, -⟩, rfl⟩ := centroid_ok_iff.1 found
      exact isBetween_weightedMean each positive up

/-- Two rows that count alike have their mean for a centroid, in either order. One that counts
twice, less one that counts once, need not be between them. -/
theorem centroid_isAverage_of_twoRows :
    let rows : List (Embedding ℚ) := [replicate 0, replicate 1]
    (∃ v, centroid (R := ℚ) rows (some [1, 1]) = .ok v ∧ v.IsBetween rows ∧
      centroid (R := ℚ) rows none = .ok v ∧
      centroid (R := ℚ) rows.reverse (some [1, 1]) = .ok v) ∧
    ¬ ∀ rows v, centroid (R := ℚ) rows (some [2, -1]) = .ok v → v.IsBetween rows := by
  intro rows
  obtain ⟨accepted, same, between⟩ := centroid_isAverage [1, 1]
  obtain ⟨v, found⟩ := (accepted rows).2 (by decide +kernel)
  obtain ⟨equal, order, -⟩ := same rows v found
  refine ⟨⟨v, found, (between (by decide +kernel)).2 (by decide +kernel) rows v found, equal 1 rfl,
    order rows.reverse [1, 1] rfl (List.Perm.swap _ _ _)⟩, fun all => ?_⟩
  have up := ((centroid_isAverage [2, -1]).2.2 (by decide +kernel)).1 all
  exact absurd (up (-1) (by decide +kernel)) (by decide +kernel)

end Embedding

end PersonalFeed
