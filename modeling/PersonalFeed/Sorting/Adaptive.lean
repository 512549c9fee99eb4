import PersonalFeed.Sorting.Merge
import PersonalFeed.Sorting.Run

/-!
Sorting by merging the runs that a list consists of. Which runs are merged when depends on where
they meet: a boundary between runs is settled the sooner the fewer halvings of the whole list lie
apart from it. The relation may be no order; then the outcome depends on which items are compared.
-/

set_option autoImplicit false

namespace PersonalFeed.Sorting

variable {α : Type}

structure Pending (α : Type) where
  /-- The place of the run in the list. -/
  start : Nat
  items : List α
  /-- The power of the boundary behind the run, once there is a run behind it. -/
  power : Nat

/-- The number of halvings of `length` places that it takes to tell two places apart: those of the
middles of two neighbouring runs, both counted twice. `fuel` bounds the halvings. -/
def powerBetween (length : Nat) : Nat → Nat → Nat → Nat
  | 0, _, _ => 1
  | fuel + 1, left, right =>
    -- Both places are in the upper half, or the middle of the list tells them apart, or both are
    -- in the lower half.
    if length ≤ left then
      powerBetween length fuel (2 * (left - length)) (2 * (right - length)) + 1
    else if length ≤ right then 1
    else powerBetween length fuel (2 * left) (2 * right) + 1

/-- The power of the boundary between a run and the next one, of `count` items, in a list of
`length` items. -/
def Pending.boundaryPower (run : Pending α) (count length : Nat) : Nat :=
  let left := 2 * run.start + run.items.length
  powerBetween length length left (left + run.items.length + count)

def Pending.merge (before : α → α → Bool) (patience : Nat) (run next : Pending α) :
    Nat × Pending α :=
  let (patience, items) := mergeRuns before patience run.items next.items
  (patience, { run with items := items })

/-- Merge the latest runs as long as the boundary between them has more power than the one behind
them. -/
def settle (before : α → α → Bool) (power patience : Nat) :
    List (Pending α) → Nat × List (Pending α)
  | top :: below :: rest =>
    if power < below.power then
      let merged := below.merge before patience top
      settle before power merged.1 (merged.2 :: rest)
    else (patience, { top with power := power } :: below :: rest)
  | [top] => (patience, [{ top with power := power }])
  | [] => (patience, [])
termination_by pending => pending.length

/-- Merge all runs, the latest first. A run that is shorter than both its neighbours goes to the
earlier one. -/
def settleAll (before : α → α → Bool) (patience : Nat) : List (Pending α) → List α
  | [] => []
  | [only] => only.items
  | [top, below] => (below.merge before patience top).2.items
  | top :: below :: third :: rest =>
    if third.items.length < top.items.length then
      let merged := third.merge before patience below
      settleAll before merged.1 (top :: merged.2 :: rest)
    else
      let merged := below.merge before patience top
      settleAll before merged.1 (merged.2 :: third :: rest)
termination_by pending => pending.length

/-- Take runs from a list of `length` items, the first `start` of which are taken. -/
def takeRuns (before : α → α → Bool) (length start patience : Nat) (pending : List (Pending α)) :
    List α → List α
  | [] => settleAll before patience pending
  | item :: rest =>
    let next := nextRun before (leastLength length false) (item :: rest)
    let count := next.1.length
    let (patience, pending) :=
      match pending with
      | [] => (patience, [])
      | top :: _ => settle before (top.boundaryPower count length) patience pending
    takeRuns before length (start + count) patience (⟨start, next.1, 0⟩ :: pending) next.2
termination_by items => items.length
decreasing_by exact length_nextRun ..

def sort (before : α → α → Bool) (items : List α) : List α :=
  takeRuns before items.length 0 worthwhile [] items

/-- The list in order by a relation that is an order as long as no item is a stray. Without strays
the outcome is that of every stable sort. -/
def sortStrays (isStray : α → Bool) (before : α → α → Bool) (items : List α) : List α :=
  if items.any isStray then sort before items else items.mergeSort fun a b => !before b a

end PersonalFeed.Sorting
