/-!
Binary floating-point numbers of 64 bits as exact fractions. A finite number is a sign, a natural
number and a power of two; `nearest` goes the other way and rounds a fraction, a half going to the
even neighbour. Beyond the largest finite number lies infinity.
-/

set_option autoImplicit false

namespace PersonalFeed.Number

/-- The integer nearest `n / d`; of two equally near ones the even one. -/
def roundHalfEven (n d : Nat) : Nat :=
  let quotient := n / d
  let twice := 2 * (n % d)
  if d < twice ∨ (twice = d ∧ quotient % 2 = 1) then quotient + 1 else quotient

/-- `n · base ^ e / d` as a fraction of natural numbers. -/
def scale (base n d : Nat) (e : Int) : Nat × Nat :=
  match e with
  | .ofNat k => (n * Nat.pow base k, d)
  | .negSucc k => (n, d * Nat.pow base (k + 1))

/-- The largest power of ten that a positive fraction below one reaches, as `-(count + 1)`;
`fuel` bounds the number of leading zeros. -/
def leadingZeros (d : Nat) : Nat → Nat → Nat
  | 0, _ => 0
  | fuel + 1, n => if d ≤ n * 10 then 0 else leadingZeros d fuel (n * 10) + 1

/-- The power of ten of the first digit of the positive fraction `n / d`. -/
def decade (n d : Nat) : Int :=
  if d ≤ n then ((Nat.toDigits 10 (n / d)).length : Int) - 1
  else -(leadingZeros d (d.log2 + 1) n : Int) - 1

/-! ### Binary numbers -/

/-- A finite binary number: `± significand · 2 ^ exponent`. -/
structure Dyadic where
  negative : Bool
  significand : Nat
  exponent : Int
  deriving DecidableEq, Repr

namespace Dyadic

/-- The exact value of a finite number, `none` for the infinities and for no number. -/
def ofFloat? (x : Float) : Option Dyadic :=
  let bits : Nat := x.toBits.toNat
  let negative := bits / Nat.pow 2 63 == 1
  let field : Nat := bits / Nat.pow 2 52 % Nat.pow 2 11
  let fraction : Nat := bits % Nat.pow 2 52
  if field = 2047 then none
  else if field = 0 then some ⟨negative, fraction, -1074⟩
  else some ⟨negative, Nat.pow 2 52 + fraction, (field : Int) - 1075⟩

def fraction (x : Dyadic) : Nat × Nat := scale 2 x.significand 1 x.exponent

end Dyadic

/-- The bits of the magnitude nearest the fraction `n / d`, without its sign. -/
def nearestBits (n d : Nat) : Nat :=
  if n = 0 then 0
  else
    let guess : Int := (n.log2 : Int) - d.log2
    let (num, den) := scale 2 n d (-guess)
    let magnitude := if num < den then guess - 1 else guess
    -- Far outside of the range nothing has to be rounded.
    if magnitude > 1024 then 2047 * Nat.pow 2 52
    else if magnitude < -1080 then 0
    else
      -- The last place of a subnormal number does not get any smaller.
      let unit := max (magnitude - 52) (-1074)
      let (num, den) := scale 2 n d (-unit)
      min ((unit + 1074).toNat * Nat.pow 2 52 + roundHalfEven num den) (2047 * Nat.pow 2 52)

/-- The number nearest `± n / d`, which is infinite when that is beyond the largest one. -/
def nearest (negative : Bool) (n d : Nat) : Float :=
  Float.ofBits (UInt64.ofNat ((if negative then Nat.pow 2 63 else 0) + nearestBits n d))

/-- The number nearest `± digits · 10 ^ exponent`. Powers beyond the format's range are cut off
first, so that a short text never asks for a long computation. -/
def nearestDecimal (negative : Bool) (digits : Nat) (exponent : Int) : Float :=
  let size : Int := (Nat.toDigits 10 digits).length + exponent
  if digits = 0 ∨ size < -330 then nearest negative 0 1
  else if size > 310 then nearest negative (Nat.pow 2 1100) 1
  else
    let (n, d) := scale 10 digits 1 exponent
    nearest negative n d

/-- The nearest number with `places` decimal places; what is not finite stays. -/
def roundPlaces (places : Nat) (x : Float) : Float :=
  match Dyadic.ofFloat? x with
  | none => x
  | some value =>
    let (n, d) := value.fraction
    nearest value.negative (roundHalfEven (n * Nat.pow 10 places) d) (Nat.pow 10 places)

/-- The nearest number with `count` significant decimal digits; what is not finite stays. -/
def roundSignificant (count : Nat) (x : Float) : Float :=
  match Dyadic.ofFloat? x with
  | none => x
  | some value =>
    let (n, d) := value.fraction
    if n = 0 then x
    else
      let unit := decade n d - (count : Int) + 1
      let (num, den) := scale 10 n d (-unit)
      nearestDecimal value.negative (roundHalfEven num den) unit

def quotient? (x : Float) : Option (Int × Nat) :=
  (Dyadic.ofFloat? x).map fun value =>
    let (n, d) := value.fraction
    (if value.negative then -(n : Int) else n, d)

def toInt? (x : Float) : Option Int :=
  match quotient? x with
  | some (n, d) => if n % d = 0 then some (n / d) else none
  | none => none

def floor? (x : Float) : Option Int := (quotient? x).map fun (n, d) => n / d

end PersonalFeed.Number
