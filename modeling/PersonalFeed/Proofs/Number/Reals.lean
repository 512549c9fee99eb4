import Mathlib.Analysis.SpecialFunctions.Pow.Real
import PersonalFeed.Number.Scalar

/-!
Real numbers as scores. Nothing is rounded, out of range or undefined. Growth is left to laws of
which no more is known than that it does not exceed one where it decays.
-/

set_option autoImplicit false

namespace PersonalFeed

structure Growth where
  exp : ℝ → ℝ
  exp2 : ℝ → ℝ
  /-- How numbers are written, which no score depends on. -/
  text : ℝ → String
  exp_le_one : ∀ x ≤ 0, exp x ≤ 1

noncomputable def Growth.exact : Growth where
  exp := Real.exp
  exp2 x := 2 ^ x
  text _ := ""
  exp_le_one _ below := Real.exp_le_one_iff.2 below

structure Unrounded (g : Growth) where
  value : ℝ

namespace Unrounded

open Scalar

variable {g : Growth}

noncomputable instance : Scalar (Unrounded g) where
  add x y := ⟨x.value + y.value⟩
  sub x y := ⟨x.value - y.value⟩
  mul x y := ⟨x.value * y.value⟩
  div x y := ⟨x.value / y.value⟩
  neg x := ⟨-x.value⟩
  ratio n d := ⟨n / d⟩
  lt x y := x.value < y.value
  le x y := x.value ≤ y.value
  isNaN _ := false
  isFinite _ := true

noncomputable instance : Exponential (Unrounded g) where
  exp x := ⟨g.exp x.value⟩
  exp2 x := ⟨g.exp2 x.value⟩
  leastNormal := ⟨1 / 2 ^ 1022⟩

open Classical in
noncomputable def roundHalfEven (x : ℝ) : Int :=
  if 1 / 2 < Int.fract x ∨ (Int.fract x = 1 / 2 ∧ ⌊x⌋ % 2 = 1) then ⌊x⌋ + 1 else ⌊x⌋

open Classical in
noncomputable instance : Numeral (Unrounded g) where
  ofDecimal negative digits power := ⟨(if negative then -1 else 1) * digits * 10 ^ power⟩
  infinite := ⟨0⟩
  undefined := ⟨0⟩
  text x := g.text x.value
  roundPlaces places x := ⟨roundHalfEven (x.value * 10 ^ places) / 10 ^ places⟩
  toInt? x := if x.value = ⌊x.value⌋ then some ⌊x.value⌋ else none
  floor? x := some ⌊x.value⌋

noncomputable instance : Rooted (Unrounded g) where
  sqrt x := ⟨√x.value⟩

noncomputable instance : Score (Unrounded g) where

noncomputable instance : Component (Unrounded g) (Unrounded g) where
  narrow := id
  widen := id

variable (x y : Unrounded g)

@[simp] theorem value_add : (x + y).value = x.value + y.value := rfl

@[simp] theorem value_sub : (x - y).value = x.value - y.value := rfl

@[simp] theorem value_mul : (x * y).value = x.value * y.value := rfl

@[simp] theorem value_div : (x / y).value = x.value / y.value := rfl

@[simp] theorem value_neg : (-x).value = -x.value := rfl

@[simp] theorem value_ratio (n : Int) (d : Nat) : (ratio n d : Unrounded g).value = n / d := rfl

@[simp] theorem value_ofInt (n : Int) : (ofInt n : Unrounded g).value = n := by simp [ofInt]

@[simp] theorem value_zero : (zero : Unrounded g).value = 0 := by simp [zero]

@[simp] theorem value_one : (one : Unrounded g).value = 1 := by simp [one]

@[simp] theorem value_exp : (Exponential.exp x).value = g.exp x.value := rfl

@[simp] theorem value_exp2 : (Exponential.exp2 x).value = g.exp2 x.value := rfl

@[simp] theorem value_leastNormal :
    (Exponential.leastNormal : Unrounded g).value = 1 / 2 ^ 1022 := rfl

@[simp] theorem lt_iff : lt x y = true ↔ x.value < y.value := decide_eq_true_iff

@[simp] theorem le_iff : le x y = true ↔ x.value ≤ y.value := decide_eq_true_iff

@[simp] theorem le_eq_false : le x y = false ↔ y.value < x.value :=
  decide_eq_false_iff_not.trans not_le

@[simp] theorem isNegative_eq_false : isNegative x = false ↔ 0 ≤ x.value := by
  rw [isNegative, ← value_zero (g := g)]
  exact decide_eq_false_iff_not.trans not_lt

@[simp] theorem value_larger : (larger x y).value = max x.value y.value := by
  unfold larger
  split
  · rename_i above
    exact (max_eq_right ((lt_iff x y).1 above).le).symm
  · rename_i notAbove
    exact (max_eq_left (not_lt.1 fun less => notAbove ((lt_iff x y).2 less))).symm

@[simp] theorem value_smaller : (smaller x y).value = min x.value y.value := by
  unfold smaller
  split
  · rename_i below
    exact (min_eq_right ((lt_iff y x).1 below).le).symm
  · rename_i notBelow
    exact (min_eq_left (not_lt.1 fun less => notBelow ((lt_iff y x).2 less))).symm

end Unrounded

end PersonalFeed
