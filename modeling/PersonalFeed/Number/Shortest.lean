import PersonalFeed.Number.Binary

/-!
The shortest decimal text of a binary number. Every finite number owns the interval of reals that
round to it, its ends included when the significand is even. The text takes the fewest digits for
which a decimal lies in that interval, and of those decimals the one nearest the number. It is
positional from `1e-4` up to below `1e16` and in powers of ten elsewhere.
-/

set_option autoImplicit false

namespace PersonalFeed.Number

/-- Digits with the power of ten of the last one: `digits · 10 ^ exponent`. -/
structure Decimal where
  digits : Nat
  exponent : Int
  deriving DecidableEq, Repr

/-- The interval that rounds to a number, in quarters of its unit: `low / 4`, `value / 4` and
`high / 4` times `2 ^ exponent`. Just above a power of two the lower half is shorter. -/
structure Interval where
  low : Nat
  value : Nat
  high : Nat
  exponent : Int
  closed : Bool

def Interval.around (x : Dyadic) : Interval where
  low := 4 * x.significand - (if x.significand = Nat.pow 2 52 ∧ -1074 < x.exponent then 1 else 2)
  value := 4 * x.significand
  high := 4 * x.significand + 2
  exponent := x.exponent
  closed := x.significand % 2 = 0

namespace Decimal

/-- Whether `digits · 10 ^ exponent` rounds to the number. -/
def isWithin (i : Interval) (x : Decimal) : Bool :=
  let (num, den) := scale 10 x.digits 1 x.exponent
  -- Compare `num / den` with `bound · 2 ^ exponent / 4`.
  let (scaled, unit) := scale 2 (num * 4) den (-i.exponent)
  if i.closed then i.low * unit ≤ scaled ∧ scaled ≤ i.high * unit
  else i.low * unit < scaled ∧ scaled < i.high * unit

/-- The decimal with last place `exponent` nearest the number, if one rounds to it. -/
def onGrid? (i : Interval) (exponent : Int) : Option Decimal :=
  let (n, d) := scale 2 i.value 4 i.exponent
  let (num, den) := scale 10 n d (-exponent)
  let below : Decimal := ⟨num / den, exponent⟩
  let above : Decimal := ⟨num / den + 1, exponent⟩
  let nearer : Decimal := ⟨roundHalfEven num den, exponent⟩
  match below.isWithin i, above.isWithin i with
  | true, true => some nearer
  | true, false => some below
  | false, true => some above
  | false, false => none

/-- Try grids of more and more digits; `fuel` counts the grids left. -/
def firstGrid (i : Interval) (first : Int) : Nat → Nat → Decimal
  | 0, _ => ⟨0, 0⟩
  | fuel + 1, count =>
    match onGrid? i (first - count) with
    | some x => x
    | none => firstGrid i first fuel (count + 1)

def shortest (x : Dyadic) : Decimal :=
  let (n, d) := x.fraction
  firstGrid (.around x) (decade n d) 18 0

def significantDigits (x : Decimal) : List Char × Int :=
  let digits := Nat.toDigits 10 x.digits
  let kept := (digits.reverse.dropWhile (· == '0')).reverse
  (kept, x.exponent + digits.length)

end Decimal

def powerText (e : Int) : List Char :=
  let digits := Nat.toDigits 10 e.natAbs
  (if e < 0 then '-' else '+') :: (if digits.length < 2 then '0' :: digits else digits)

/-- Digits with the point after the first `point` of them, or a power of ten where that would be
below `1e-4` or from `1e16` on. -/
def layOut (digits : List Char) (point : Int) : List Char :=
  if -4 < point ∧ point ≤ 16 then
    if point ≤ 0 then '0' :: '.' :: (List.replicate (-point).toNat '0' ++ digits)
    else
      let whole := digits.take point.toNat
      let whole := whole ++ List.replicate (point.toNat - whole.length) '0'
      let rest := digits.drop point.toNat
      whole ++ '.' :: (if rest.isEmpty then ['0'] else rest)
  else
    let rest := digits.drop 1
    digits.take 1 ++ (if rest.isEmpty then [] else '.' :: rest) ++ 'e' :: powerText (point - 1)

def shortestText (x : Float) : String :=
  match Dyadic.ofFloat? x with
  | none => if x.isNaN then "nan" else if x < 0.0 then "-inf" else "inf"
  | some value =>
    let sign := if value.negative then ['-'] else []
    if value.significand = 0 then String.ofList (sign ++ ['0', '.', '0'])
    else
      let (digits, point) := (Decimal.shortest value).significantDigits
      String.ofList (sign ++ layOut digits point)

end PersonalFeed.Number
