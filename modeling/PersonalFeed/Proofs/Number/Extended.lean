import PersonalFeed.Proofs.Number.Exact

/-!
Rational numbers with two infinities and an undefined number. Within the range of a width nothing is
rounded, and what lies beyond it is infinite. As on machine numbers, infinities that cancel each
other and zero times infinity are undefined.
-/

set_option autoImplicit false

namespace PersonalFeed

inductive Width where
  | single | double

/-- The ranges of the widths, and what stands for growth and for roots, as few are rational. -/
structure Arithmetic where
  largest : Width → Nat
  exp : ℚ → ℚ
  exp2 : ℚ → ℚ
  sqrt : ℚ → ℚ
  /-- The sum of as many products as a vector has components stays in range if no factor exceeds
  two. -/
  wide : ∀ width, 4 * vectorWidth ≤ largest width
  exp_le_one : ∀ x ≤ 0, exp x ≤ 1
  sqrt_nonneg : ∀ x, 0 ≤ sqrt x
  /-- A root is at least half of the exact one. -/
  le_sqrt : ∀ x, 0 ≤ x → x ≤ (2 * sqrt x) ^ 2

inductive Extended (a : Arithmetic) (w : Width) where
  | finite (value : ℚ) (inRange : |value| ≤ a.largest w)
  | infinite (negative : Bool)
  | undefined

namespace Extended

variable {a : Arithmetic} {w : Width}

def ofRat (x : ℚ) : Extended a w :=
  if inRange : |x| ≤ a.largest w then finite x inRange else infinite (x < 0)

def value? : Extended a w → Option ℚ
  | finite x _ => some x
  | infinite _ | undefined => none

def negate : Extended a w → Extended a w
  | finite x _ => ofRat (-x)
  | infinite negative => infinite !negative
  | undefined => undefined

def add : Extended a w → Extended a w → Extended a w
  | finite x _, finite y _ => ofRat (x + y)
  | finite _ _, infinite negative => infinite negative
  | infinite negative, finite _ _ => infinite negative
  | infinite first, infinite second => if first = second then infinite first else undefined
  | undefined, _ => undefined
  | _, undefined => undefined

def scale (negative : Bool) (x : ℚ) : Extended a w :=
  if x = 0 then undefined else infinite (negative != decide (x < 0))

def mul : Extended a w → Extended a w → Extended a w
  | finite x _, finite y _ => ofRat (x * y)
  | finite x _, infinite negative => scale negative x
  | infinite negative, finite x _ => scale negative x
  | infinite first, infinite second => infinite (first != second)
  | undefined, _ => undefined
  | _, undefined => undefined

def div : Extended a w → Extended a w → Extended a w
  | finite x _, finite y _ => if y = 0 then scale false x else ofRat (x / y)
  | finite _ _, infinite _ => ofRat 0
  | infinite negative, finite x _ => infinite (negative != decide (x < 0))
  | infinite _, infinite _ => undefined
  | undefined, _ => undefined
  | _, undefined => undefined

def below : Extended a w → Extended a w → Bool
  | finite x _, finite y _ => x < y
  | finite _ _, infinite negative => !negative
  | infinite negative, finite _ _ => negative
  | infinite first, infinite second => first && !second
  | undefined, _ => false
  | _, undefined => false

def atMost : Extended a w → Extended a w → Bool
  | finite x _, finite y _ => x ≤ y
  | finite _ _, infinite negative => !negative
  | infinite negative, finite _ _ => negative
  | infinite first, infinite second => first || !second
  | undefined, _ => false
  | _, undefined => false

instance : Scalar (Extended a w) where
  add := add
  sub x y := add x (negate y)
  mul := mul
  div := div
  neg := negate
  ratio n d := ofRat (n / d)
  lt := below
  le := atMost
  isNaN
    | undefined => true
    | finite _ _ | infinite _ => false
  isFinite x := x.value?.isSome

/-- Growth by a function of finite numbers: to zero below all of them and without bound above. -/
def grow (f : ℚ → ℚ) : Extended a w → Extended a w
  | finite x _ => ofRat (f x)
  | infinite negative => if negative then ofRat 0 else infinite false
  | undefined => undefined

instance : Exponential (Extended a w) where
  exp := grow a.exp
  exp2 := grow a.exp2
  leastNormal := ofRat (1 / 2 ^ 1022)

instance : Numeral (Extended a w) where
  ofDecimal negative digits power := ofRat (Numeral.ofDecimal negative digits power)
  infinite := infinite false
  undefined := undefined
  text
    | finite x _ => Numeral.text x
    | infinite negative => if negative then "-inf" else "inf"
    | undefined => "nan"
  roundPlaces places
    | finite x _ => ofRat (Numeral.roundPlaces places x)
    | infinite negative => infinite negative
    | undefined => undefined
  toInt? x := x.value?.bind Numeral.toInt?
  floor? x := x.value?.bind Numeral.floor?

instance : Rooted (Extended a w) where
  sqrt
    | finite x _ => if x < 0 then undefined else ofRat (a.sqrt x)
    | infinite negative => if negative then undefined else infinite false
    | undefined => undefined

instance : Score (Extended a w) where

def convert {v : Width} : Extended a v → Extended a w
  | finite x _ => ofRat x
  | infinite negative => infinite negative
  | undefined => undefined

instance : Component (Extended a .single) (Extended a .double) where
  narrow := convert
  widen := convert

open Scalar

theorem inRange_of_le {x : ℚ} (up : -4 ≤ x) (below : x ≤ 4) : |x| ≤ a.largest w := by
  have bound : 4 ≤ a.largest w := le_trans (by decide) (a.wide w)
  have cast : (4 : ℚ) ≤ a.largest w := by exact_mod_cast bound
  exact abs_le.2 ⟨by linarith, below.trans cast⟩

variable {x y : Extended a w} {q r : ℚ}

theorem ofRat_inRange (inRange : |q| ≤ a.largest w) : (ofRat q : Extended a w) = finite q inRange :=
  dif_pos inRange

theorem value?_ofRat (inRange : |q| ≤ a.largest w) : (ofRat q : Extended a w).value? = some q := by
  rw [ofRat_inRange inRange, value?]

theorem inRange_of_value (found : x.value? = some q) : |q| ≤ a.largest w := by
  cases x with
  | finite value inRange => exact Option.some.inj found ▸ inRange
  | infinite | undefined => cases found

theorem eq_ofRat (found : x.value? = some q) : x = ofRat q := by
  have inRange := inRange_of_value found
  cases x with
  | finite value _ =>
    cases found
    rw [ofRat_inRange inRange]
  | infinite | undefined => cases found

theorem isNaN_ofRat (q : ℚ) : isNaN (ofRat q : Extended a w) = false := by
  unfold ofRat
  split <;> rfl

theorem eq_of_ofRat (found : (ofRat q : Extended a w).value? = some r) : r = q := by
  unfold ofRat at found
  split at found
  · exact (Option.some.inj found).symm
  · cases found

theorem isFinite_iff : isFinite x = true ↔ ∃ q, x.value? = some q := Option.isSome_iff_exists

theorem not_isNaN (found : x.value? = some q) : isNaN x = false := by
  cases x with
  | finite => rfl
  | infinite | undefined => cases found

theorem zero_eq : (zero : Extended a w) = ofRat 0 :=
  congrArg ofRat (by norm_num : ((0 : Int) : ℚ) / (1 : Nat) = 0)

theorem one_eq : (one : Extended a w) = ofRat 1 :=
  congrArg ofRat (by norm_num : ((1 : Int) : ℚ) / (1 : Nat) = 1)

theorem zero_finite : ∃ inRange, (zero : Extended a w) = finite 0 inRange :=
  ⟨inRange_of_le (by norm_num) (by norm_num), zero_eq.trans (ofRat_inRange _)⟩

theorem one_finite : ∃ inRange, (one : Extended a w) = finite 1 inRange :=
  ⟨inRange_of_le (by norm_num) (by norm_num), one_eq.trans (ofRat_inRange _)⟩

@[simp] theorem isNegative_finite (inRange : |q| ≤ a.largest w) :
    isNegative (finite q inRange : Extended a w) = decide (q < 0) := by
  obtain ⟨_, zero⟩ := zero_finite (a := a) (w := w)
  rw [isNegative, zero]
  rfl

@[simp] theorem isNegative_infinite (negative : Bool) :
    isNegative (infinite negative : Extended a w) = negative := by
  obtain ⟨_, zero⟩ := zero_finite (a := a) (w := w)
  rw [isNegative, zero]
  rfl

@[simp] theorem isNegative_undefined : isNegative (undefined : Extended a w) = false := rfl

@[simp] theorem isNegative_ofRat (q : ℚ) :
    isNegative (ofRat q : Extended a w) = decide (q < 0) := by
  unfold ofRat
  split <;> simp

theorem atMost_total (left : isNaN x = false) (right : isNaN y = false) :
    atMost x y = true ∨ atMost y x = true := by
  cases x with
  | finite q =>
    cases y with
    | finite r => exact (le_total q r).imp decide_eq_true decide_eq_true
    | infinite negative => cases negative <;> simp [atMost]
    | undefined => cases right
  | infinite first =>
    cases y with
    | finite => cases first <;> simp [atMost]
    | infinite second => cases first <;> simp [atMost]
    | undefined => cases right
  | undefined => cases left

theorem atMost_trans {z : Extended a w} (first : atMost x y = true) (second : atMost y z = true) :
    atMost x z = true := by
  cases x <;> cases y <;> cases z <;> simp_all [atMost]
  · exact first.trans second
  · grind

theorem below_eq (left : isNaN x = false) (right : isNaN y = false) : below x y = !atMost y x := by
  cases x with
  | finite q =>
    cases y with
    | finite r => simp [below, atMost, ← not_le]
    | infinite negative => cases negative <;> rfl
    | undefined => cases right
  | infinite first =>
    cases y with
    | finite => cases first <;> rfl
    | infinite second => cases first <;> cases second <;> rfl
    | undefined => cases right
  | undefined => cases left

theorem isBottom_iff : isBottom x = true ↔ x = infinite true := by
  cases x with
  | finite q => simp [isBottom, isFinite, value?]
  | infinite negative =>
    change isNegative (infinite negative : Extended a w) = true ↔ _
    simp
  | undefined => exact ⟨fun bottom => absurd bottom Bool.false_ne_true, fun same => by cases same⟩

/-- Infinities have their place in the order, so ranking works with them as it does without. -/
instance : OrderRules (Extended a w) where
  le_total _ _ := atMost_total
  le_trans _ _ _ := atMost_trans
  lt_eq _ _ := below_eq
  bottom x y below bottom := by
    rw [isBottom_iff] at bottom ⊢
    subst bottom
    change atMost x _ = true at below
    cases x <;> simp_all [atMost]
  ratio _ _ _ := isNaN_ofRat _
  finite x finite := by
    obtain ⟨q, found⟩ := isFinite_iff.1 finite
    exact not_isNaN found

theorem nonneg_of_value (found : x.value? = some q) (up : isNegative x = false) : 0 ≤ q := by
  rw [eq_ofRat found, isNegative_ofRat] at up
  exact not_lt.1 (of_decide_eq_false up)

theorem isNegative_add (first : isNegative x = false) (second : isNegative y = false) :
    isNegative (x + y) = false := by
  change isNegative (add x y) = false
  cases x <;> cases y <;> simp_all [add]
  · linarith

theorem isNegative_mul (first : isNegative x = false) (second : isNegative y = false) :
    isNegative (x * y) = false := by
  change isNegative (mul x y) = false
  cases x <;> cases y <;> simp_all [mul, scale]
  · exact mul_nonneg first second
  all_goals split <;> simp_all

theorem add_of_value (left : x.value? = some q) (right : y.value? = some r) :
    x + y = ofRat (q + r) := by
  cases x <;> cases left
  cases y <;> cases right
  rfl

theorem mul_of_value (left : x.value? = some q) (right : y.value? = some r) :
    x * y = ofRat (q * r) := by
  cases x <;> cases left
  cases y <;> cases right
  rfl

theorem neg_of_value (found : x.value? = some q) : -x = ofRat (-q) := by
  cases x <;> cases found
  rfl

theorem value?_neg (found : x.value? = some q) : (-x).value? = some (-q) := by
  rw [neg_of_value found, value?_ofRat (by rw [abs_neg]; exact inRange_of_value found)]

theorem sub_of_value (left : x.value? = some q) (right : y.value? = some r) :
    x - y = ofRat (q - r) := by
  rw [sub_eq_add_neg]
  exact add_of_value left (value?_neg right)

theorem div_of_value (left : x.value? = some q) (right : y.value? = some r) (nonzero : r ≠ 0) :
    x / y = ofRat (q / r) := by
  cases x <;> cases left
  cases y <;> cases right
  exact if_neg nonzero

theorem isNaN_div (number : isNaN x = false) (found : y.value? = some r) (nonzero : r ≠ 0) :
    isNaN (x / y) = false := by
  cases x with
  | finite q =>
    rw [div_of_value rfl found nonzero]
    exact isNaN_ofRat _
  | infinite negative =>
    cases y with
    | finite => rfl
    | infinite | undefined => cases found
  | undefined => cases number

theorem values_of_add {sum : ℚ} (found : (x + y).value? = some sum) :
    ∃ q r, x.value? = some q ∧ y.value? = some r ∧ sum = q + r := by
  change (add x y).value? = some sum at found
  cases x with
  | finite q =>
    cases y with
    | finite r => exact ⟨q, r, rfl, rfl, eq_of_ofRat found⟩
    | infinite | undefined => cases found
  | infinite first =>
    cases y with
    | infinite second =>
      rw [add] at found
      split at found <;> cases found
    | finite | undefined => cases found
  | undefined => cases y <;> cases found

theorem values_of_mul {product : ℚ} (found : (x * y).value? = some product) :
    ∃ q r, x.value? = some q ∧ y.value? = some r ∧ product = q * r := by
  have scaled {negative : Bool} {q : ℚ} :
      (scale negative q : Extended a w).value? ≠ some product := by
    unfold scale
    split <;> exact fun found => by cases found
  change (mul x y).value? = some product at found
  cases x with
  | finite q =>
    cases y with
    | finite r => exact ⟨q, r, rfl, rfl, eq_of_ofRat found⟩
    | infinite => exact absurd found scaled
    | undefined => cases found
  | infinite first =>
    cases y with
    | finite => exact absurd found scaled
    | infinite | undefined => cases found
  | undefined => cases y <;> cases found

theorem lt_of_value (left : x.value? = some q) (right : y.value? = some r) :
    lt x y = decide (q < r) := by
  cases x <;> cases left
  cases y <;> cases right
  rfl

theorem le_of_value (left : x.value? = some q) (right : y.value? = some r) :
    le x y = decide (q ≤ r) := by
  cases x <;> cases left
  cases y <;> cases right
  rfl

theorem value?_zero : (zero : Extended a w).value? = some 0 := by
  rw [zero_eq]
  exact value?_ofRat (inRange_of_le (by norm_num) (by norm_num))

theorem value?_one : (one : Extended a w).value? = some 1 := by
  rw [one_eq]
  exact value?_ofRat (inRange_of_le (by norm_num) (by norm_num))

theorem value?_least :
    (Exponential.leastNormal : Extended a w).value? = some (1 / 2 ^ 1022) := by
  have up : (0 : ℚ) ≤ 1 / 2 ^ 1022 := by positivity
  have small : (1 / 2 ^ 1022 : ℚ) ≤ 1 :=
    div_le_one_of_le₀ (one_le_pow₀ one_le_two) (pow_nonneg zero_le_two _)
  exact value?_ofRat (inRange_of_le (le_trans (by norm_num) up) (small.trans (by norm_num)))

theorem le_zero_ofRat (q : ℚ) : le (ofRat q : Extended a w) zero = decide (q ≤ 0) := by
  by_cases inRange : |q| ≤ a.largest w
  · exact le_of_value (value?_ofRat inRange) value?_zero
  · have beyond : (ofRat q : Extended a w) = infinite (q < 0) := dif_neg inRange
    have nonzero : q ≠ 0 := by
      rintro rfl
      simp at inRange
    obtain ⟨_, zero⟩ := zero_finite (a := a) (w := w)
    rw [beyond, zero]
    exact decide_eq_decide.2 ⟨le_of_lt, fun below => lt_of_le_of_ne below nonzero⟩

theorem ratio_eq (n : Int) (d : Nat) : (ratio n d : Extended a w) = ofRat (n / d) := rfl

theorem isFinite_roundPlaces (finite : isFinite x = true) (places : Nat) :
    isFinite (Numeral.roundPlaces places x) = true := by
  obtain ⟨q, found⟩ := isFinite_iff.1 finite
  obtain ⟨below, above⟩ := abs_le.1 (inRange_of_value found)
  have least := Exact.roundPlaces_mono places below
  have most := Exact.roundPlaces_mono places above
  have first := Exact.roundPlaces_intCast places (-a.largest w)
  have last := Exact.roundPlaces_intCast places (a.largest w)
  push_cast at first last
  rw [first] at least
  rw [last] at most
  -- A finite number is rounded as a rational one, between the two ends.
  cases x with
  | finite =>
    cases found
    exact isFinite_iff.2 ⟨_, value?_ofRat (abs_le.2 ⟨least, most⟩)⟩
  | infinite | undefined => cases found

theorem value?_half : (ratio 1 2 : Extended a w).value? = some (1 / 2) := by
  rw [ratio_eq, value?_ofRat]
  · norm_num
  · exact inRange_of_le (by norm_num) (by norm_num)

theorem isNegative_div (up : isNegative x = false) (positive : le y zero = false) :
    isNegative (x / y) = false := by
  obtain ⟨_, zero⟩ := zero_finite (a := a) (w := w)
  rw [zero] at positive
  change isNegative (div x y) = false
  cases y with
  | finite r =>
    have above : 0 < r := not_le.1 (of_decide_eq_false positive)
    cases x with
    | finite q =>
      have share : 0 ≤ q / r := div_nonneg (by simpa using up) above.le
      simpa [div, above.ne'] using share
    | infinite negative => simpa [div, not_lt.2 above.le] using up
    | undefined => rfl
  | infinite negative => cases x <;> simp [div]
  | undefined => cases x <;> rfl

instance : SignRules (Extended a w) where
  le_refl x number := by
    cases x with
    | finite x => exact decide_eq_true (le_refl x)
    | infinite negative => cases negative <;> rfl
    | undefined => cases number
  add _ _ := isNegative_add
  mul _ _ := isNegative_mul
  div _ _ := isNegative_div
  ratio n d up := by
    have share : (0 : ℚ) ≤ n / d := div_nonneg (Int.cast_nonneg up) (Nat.cast_nonneg d)
    simpa [ratio_eq] using share
  above x y up above := by
    cases x with
    | finite q =>
      cases y with
      | finite r =>
        have less : q < r := of_decide_eq_true above
        simpa using (show 0 ≤ q by simpa using up).trans less.le
      | infinite negative => simpa [lt, below] using above
      | undefined => rfl
    | infinite negative =>
      cases y <;> simp_all [lt, below]
    | undefined => cases above
  positive x above := by
    obtain ⟨_, zero⟩ := zero_finite (a := a) (w := w)
    rw [zero] at above ⊢
    cases x with
    | finite q =>
      have positive : 0 < q := of_decide_eq_true above
      exact ⟨decide_eq_false (not_le.2 positive), rfl⟩
    | infinite negative =>
      cases negative with
      | false => exact ⟨rfl, rfl⟩
      | true => cases above
    | undefined => cases above
  least x above := by
    cases x with
    | finite q =>
      rw [lt_of_value rfl value?_least, decide_eq_false_iff_not, not_lt] at above
      have positive : (0 : ℚ) ≤ 1 / 2 ^ 1022 := by positivity
      simpa using positive.trans above
    | infinite negative =>
      rw [eq_ofRat value?_least, ofRat_inRange (inRange_of_value value?_least)] at above
      simpa [lt, Extended.below] using above
    | undefined => rfl
  least_up := by
    have up : ¬ (1 / 2 ^ 1022 : ℚ) < 0 := not_lt.2 (by positivity)
    exact (isNegative_ofRat _).trans (decide_eq_false up)
  one_add x up := by
    cases x with
    | finite q =>
      have up : 0 ≤ q := by simpa using up
      rw [add_of_value value?_one rfl, le_zero_ofRat]
      exact decide_eq_false (by linarith)
    | infinite negative =>
      cases (isNegative_infinite negative).symm.trans up
      obtain ⟨_, one⟩ := one_finite (a := a) (w := w)
      obtain ⟨_, zero⟩ := zero_finite (a := a) (w := w)
      rw [one, zero]
      rfl
    | undefined =>
      obtain ⟨_, one⟩ := one_finite (a := a) (w := w)
      rw [one]
      rfl
  half k m below := by
    have least : (0 : ℚ) ≤ k / m := div_nonneg (Nat.cast_nonneg k) (Nat.cast_nonneg m)
    have most : (k : ℚ) / m ≤ 1 := div_le_one_of_le₀ (Nat.cast_le.2 below) (Nat.cast_nonneg m)
    have share : (ratio k m : Extended a w).value? = some ((k : ℚ) / m) := by
      rw [ratio_eq, Int.cast_natCast]
      exact value?_ofRat (inRange_of_le (by linarith) (by linarith))
    have product : (ratio 1 2 * ratio k m : Extended a w).value? =
        some (1 / 2 * ((k : ℚ) / m)) := by
      rw [mul_of_value value?_half share]
      exact value?_ofRat (inRange_of_le (by linarith) (by linarith))
    rw [sub_of_value value?_one product, isNegative_ofRat]
    exact decide_eq_false (by linarith)

theorem ofRat_beyond (up : 0 ≤ q) (beyond : ¬ |q| ≤ a.largest w) :
    (ofRat q : Extended a w) = infinite false := by
  rw [ofRat, dif_neg beyond, decide_eq_false (not_lt.2 up)]

theorem ofRat_add (first : 0 ≤ q) (second : 0 ≤ r) :
    (ofRat q + ofRat r : Extended a w) = ofRat (q + r) := by
  by_cases left : |q| ≤ a.largest w
  · by_cases right : |r| ≤ a.largest w
    · exact add_of_value (value?_ofRat left) (value?_ofRat right)
    -- A part out of range takes the sum out of range.
    · have beyond : ¬ |q + r| ≤ a.largest w := by
        rw [abs_of_nonneg (by linarith)]
        rw [abs_of_nonneg second] at right
        linarith
      rw [ofRat_inRange left, ofRat_beyond second right, ofRat_beyond (by linarith) beyond]
      rfl
  · have beyond : ¬ |q + r| ≤ a.largest w := by
      rw [abs_of_nonneg (by linarith)]
      rw [abs_of_nonneg first] at left
      linarith
    rw [ofRat_beyond first left, ofRat_beyond (by linarith) beyond]
    by_cases right : |r| ≤ a.largest w
    · rw [ofRat_inRange right]
      rfl
    · rw [ofRat_beyond second right]
      rfl

instance : FaithfulText (Extended a w) where
  notMem x := by
    cases x with
    | finite x => exact PlainText.notMem x
    | infinite negative =>
      cases negative with
      | false => exact (by decide : ':' ∉ "inf".toList ∧ ',' ∉ "inf".toList)
      | true => exact (by decide : ':' ∉ "-inf".toList ∧ ',' ∉ "-inf".toList)
    | undefined => exact (by decide : ':' ∉ "nan".toList ∧ ',' ∉ "nan".toList)
  text_inj x y first second same := by
    cases x with
    | finite x =>
      cases y with
      | finite y =>
        cases FaithfulText.text_inj x y rfl rfl same
        rfl
      | infinite | undefined => cases second
    | infinite | undefined => cases first

end Extended

theorem le_sqrt (x : ℚ) (up : 0 ≤ x) : x ≤ (2 * Rat.sqrt x) ^ 2 := by
  obtain ⟨n, numerator⟩ := Int.eq_ofNat_of_zero_le (Rat.num_nonneg.2 up)
  have value : x = (n : ℚ) / x.den := by
    rw [← Int.cast_natCast n, ← numerator, Rat.num_div_den]
  have root : Rat.sqrt x = (Nat.sqrt n : ℚ) / (Nat.sqrt x.den : ℕ) := by
    rw [Rat.sqrt, numerator, Rat.mkRat_eq_div, Int.sqrt, Int.toNat_natCast, Int.cast_natCast]
  have most : n ≤ (2 * Nat.sqrt n) ^ 2 := by
    have next := Nat.lt_succ_sqrt n
    rcases Nat.eq_zero_or_pos (Nat.sqrt n) with none | some
    · rw [none] at next
      omega
    · nlinarith
  have least : 0 < Nat.sqrt x.den := Nat.sqrt_pos.2 x.den_pos
  have below : Nat.sqrt x.den ^ 2 ≤ x.den := Nat.sqrt_le' x.den
  rw [root, mul_div_assoc', div_pow]
  refine value.trans_le (div_le_div₀ (by positivity) ?_ (by positivity) ?_)
  · exact_mod_cast most
  · exact_mod_cast below

def Width.digits : Width → Nat
  | .single => 24
  | .double => 53

def Width.shift : Width → Nat
  | .single => 104
  | .double => 971

def machine : Arithmetic where
  largest width := (2 ^ width.digits - 1) * 2 ^ width.shift
  exp x := if x ≤ 0 then (Exponential.exp (-x))⁻¹ else Exponential.exp x
  exp2 := Exponential.exp2
  sqrt := Rat.sqrt
  wide width := by
    have few : 4 * vectorWidth ≤ 2 ^ width.digits - 1 := by cases width <;> decide
    exact few.trans (Nat.le_mul_of_pos_right _ (Nat.two_pow_pos _))
  exp_le_one x below := by
    have grown : 1 ≤ Exponential.exp (-x) := one_le_pow₀ (by linarith)
    rw [if_pos below]
    exact inv_le_one_of_one_le₀ grown
  sqrt_nonneg := Rat.sqrt_nonneg
  le_sqrt := le_sqrt

end PersonalFeed
