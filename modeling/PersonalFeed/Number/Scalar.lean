/-!
Arithmetic for scores. The ranking formulas are written over `Scalar`, so the same definitions
run on machine numbers and can be read over exact ones. An order test answers `false` as soon as
one side is not a number, and `larger`, `smaller` keep their first argument in that case. Stores and
quick conversions are limited to whole numbers of 64 bits.
-/

set_option autoImplicit false

namespace PersonalFeed

/-- Numbers with the four operations and an order, some of them possibly not finite. -/
class Scalar (R : Type) extends Add R, Sub R, Mul R, Div R, Neg R where
  /-- The quotient of an integer by a positive number. -/
  ratio : Int → Nat → R
  /-- Strictly below. -/
  lt : R → R → Bool
  /-- Below or equal. -/
  le : R → R → Bool
  /-- No number at all, such as zero divided by zero. -/
  isNaN : R → Bool
  /-- A number that is not infinite. -/
  isFinite : R → Bool

namespace Scalar

variable {R : Type} [Scalar R]

def ofInt (n : Int) : R := ratio n 1

def quotient (n d : Int) : R := ratio (if d < 0 then -n else n) d.natAbs

def zero : R := ofInt 0

def one : R := ofInt 1

/-- Equal as numbers; the two signs of zero are one number. -/
def eq (a b : R) : Bool := le a b && le b a

def larger (a b : R) : R := if lt a b then b else a

def smaller (a b : R) : R := if lt b a then b else a

def isBottom (x : R) : Bool := !isFinite x && lt x zero

def isPositive (x : R) : Bool := lt zero x

def isNegative (x : R) : Bool := lt x zero

end Scalar

/-- Scalars with the two growth laws of the recency signals. -/
class Exponential (R : Type) extends Scalar R where
  /-- Growth to the natural base. -/
  exp : R → R
  /-- Growth that doubles with every unit. -/
  exp2 : R → R
  /-- The least positive number that keeps full precision. -/
  leastNormal : R

class Numeral (R : Type) extends Scalar R where
  /-- The number with the given sign, digits and power of ten. -/
  ofDecimal : Bool → Nat → Int → R
  infinite : R
  undefined : R
  /-- The fewest digits that read back as the number. -/
  text : R → String
  /-- The nearest number with the given count of decimal places, a half going to the even side. -/
  roundPlaces : Nat → R → R
  /-- The whole number that equals the number, if there is one. -/
  toInt? : R → Option Int
  /-- The largest whole number that is not above the number, if it is finite. -/
  floor? : R → Option Int

class Rooted (C : Type) extends Scalar C where
  sqrt : C → C

/-- Scalars that scores are computed with: all of this over one arithmetic. -/
class Score (R : Type) extends Exponential R, Numeral R, Rooted R

/-- Vector components: scalars of their own precision, converted to and from `R`. -/
class Component (C : Type) (R : outParam Type) extends Rooted C where
  narrow : R → C
  widen : C → R

/-! ### Whole numbers of 64 bits -/

namespace Number

def isWord (n : Int) : Bool := Int64.minValue.toInt ≤ n && n ≤ Int64.maxValue.toInt

def isWideWord (n : Int) : Bool := Int64.minValue.toInt ≤ n && n < UInt64.size

/-- Whether a fractional number that stands for a whole one is inside the signed range: the least
number is beyond it, like the one after the largest. -/
def isInnerWord (n : Int) : Bool := isWord n && n ≠ Int64.minValue.toInt

end Number

end PersonalFeed
