import PersonalFeed.Fault

/-!
The greedy order. Each round places the open row with the best final score and then counts it as a
match of every open row that is near it, so that the diversity of a row falls with the number of
rows before it that are near. Among rows of the same best score the later one comes first, then the
one with the smaller id.

A row that is placed takes part in the later rounds with an infinitely small score. It can tie only
with rows of that score, which finite signals never have.
-/

set_option autoImplicit false

namespace PersonalFeed.Greedy

open Scalar

/-- What a round needs to know of a row. -/
structure Row (α R : Type) where
  item : α
  /-- The part of the blend that does not change. -/
  base : R
  novelty : R
  seen : R
  moment : R
  id : Text
  /-- The rows placed before it that are near it. -/
  hits : Nat
  isOpen : Bool

structure Blend (R : Type) where
  diversity : R
  total : R

/-- A placed item with its diversity and its final score. -/
structure Placement (α R : Type) where
  item : α
  diversity : R
  final : R

variable {α R : Type} [Scalar R]

namespace Row

def diversity (row : Row α R) : R := row.novelty / (one + ofInt row.hits * ratio 1 2)

def final (blend : Blend R) (row : Row α R) : R :=
  (row.base + row.diversity * blend.diversity) / blend.total * row.seen

def openScore (blend : Blend R) (row : Row α R) : Option R :=
  if row.isOpen then some (row.final blend) else none

def winsTie (a b : Row α R) : Bool :=
  if lt b.moment a.moment then true
  else if lt a.moment b.moment then false
  else a.id < b.id

end Row

/-- The best score of the open rows, `none` if some of them has no score at all. -/
def bestScore? (blend : Blend R) (rows : List (Row α R)) : Option R :=
  match rows.filterMap (Row.openScore blend) with
  | [] => none
  | first :: rest =>
    if (first :: rest).any isNaN then none else some (rest.foldl larger first)

def isBest (blend : Blend R) (best : R) (row : Row α R) : Bool :=
  match row.openScore blend with
  | some score => Scalar.eq score best
  | none => isBottom best

def winner? (blend : Blend R) (best : R) (rows : List (Row α R)) : Option (Nat × Row α R) :=
  (rows.zipIdx.filter fun (row, _) => isBest blend best row).foldl
    (fun leader (row, index) =>
      match leader with
      | none => some (index, row)
      | some (place, front) => if row.winsTie front then some (index, row) else some (place, front))
    none

def close (rows : List (Row α R)) (place : Nat) : List (Row α R) :=
  rows.modify place fun row => { row with isOpen := false }

def countHits (near : α → α → Bool) (placed : α) (rows : List (Row α R)) : List (Row α R) :=
  rows.map fun row =>
    if row.isOpen && near placed row.item then { row with hits := row.hits + 1 } else row

/-- One round: the placement it makes and the rows after it. -/
def round (near : α → α → Bool) (blend : Blend R) (rows : List (Row α R)) :
    Except Breakdown (Placement α R × List (Row α R)) :=
  match (bestScore? blend rows).bind fun best => winner? blend best rows with
  | none => .error .unordered
  | some (place, row) =>
    .ok (⟨row.item, row.diversity, row.final blend⟩, countHits near row.item (close rows place))

def rounds (near : α → α → Bool) (blend : Blend R) :
    Nat → List (Row α R) → Except Breakdown (List (Placement α R))
  | 0, _ => .ok []
  | count + 1, rows => do
    let (placement, rows) ← round near blend rows
    let rest ← rounds near blend count rows
    return placement :: rest

def order (near : α → α → Bool) (blend : Blend R) (rows : List (Row α R)) :
    Except Breakdown (List (Placement α R)) :=
  rounds near blend rows.length rows

end PersonalFeed.Greedy
