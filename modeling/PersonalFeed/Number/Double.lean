import PersonalFeed.Number.Scalar
import PersonalFeed.Number.Shortest

/-!
Machine numbers as scalars: 64 bits for scores and 32 bits for vector components. Quotients of
integers are rounded once, from the exact value.
-/

set_option autoImplicit false

namespace PersonalFeed

instance : Scalar Float where
  ratio n d := Number.nearest (n < 0) n.natAbs d
  lt a b := a < b
  le a b := a ≤ b
  isNaN := Float.isNaN
  isFinite := Float.isFinite

instance : Exponential Float where
  exp := Float.exp
  exp2 x := Float.pow 2.0 x
  leastNormal := Number.nearest false 1 (Nat.pow 2 1022)

instance : Numeral Float where
  ofDecimal := Number.nearestDecimal
  infinite := 1.0 / 0.0
  undefined := 0.0 / 0.0
  text := Number.shortestText
  roundPlaces := Number.roundPlaces
  toInt? := Number.toInt?
  floor? := Number.floor?

instance : Rooted Float where
  sqrt := Float.sqrt

instance : Score Float where

instance : Rooted Float32 where
  ratio n d := (Number.nearest (n < 0) n.natAbs d).toFloat32
  lt a b := a < b
  le a b := a ≤ b
  isNaN := Float32.isNaN
  isFinite := Float32.isFinite
  sqrt := Float32.sqrt

instance : Component Float32 Float where
  narrow := Float.toFloat32
  widen := Float32.toFloat

end PersonalFeed
