import PersonalFeed.Sorting.Boundary

/-!
Runs: stretches of a list that are in order already. A run that goes against the order is turned
around, and a run that is too short takes in the items behind it, each put into the place that
halving finds.
-/

set_option autoImplicit false

namespace PersonalFeed.Sorting

variable {α : Type}

def takeRun (goesOn : α → α → Bool) (last : α) : List α → List α × List α
  | [] => ([], [])
  | item :: rest =>
    if goesOn last item then
      let (run, rest) := takeRun goesOn item rest
      (item :: run, rest)
    else ([], item :: rest)

theorem length_takeRun (goesOn : α → α → Bool) (last : α) (items : List α) :
    (takeRun goesOn last items).2.length ≤ items.length := by
  induction items generalizing last with
  | nil => simp [takeRun]
  | cons item rest ih =>
    have := ih item
    simp only [takeRun]
    split
    · simp only [List.length_cons]
      omega
    · exact Nat.le_refl _

/-- The run at the start of a list and the rest: items none of which comes before the one in front
of it, or items each of which does, turned around. -/
def firstRun (before : α → α → Bool) : List α → List α × List α
  | [] => ([], [])
  | [item] => ([item], [])
  | first :: second :: rest =>
    if before second first then
      let (run, rest) := takeRun (fun last item => before item last) second rest
      ((first :: second :: run).reverse, rest)
    else
      let (run, rest) := takeRun (fun last item => !before item last) second rest
      (first :: second :: run, rest)

theorem length_firstRun (before : α → α → Bool) (item : α) (rest : List α) :
    (firstRun before (item :: rest)).2.length < (item :: rest).length := by
  cases rest with
  | nil => simp [firstRun]
  | cons second rest =>
    simp only [firstRun]
    split
    · have := length_takeRun (fun last item => before item last) second rest
      simp only [List.length_cons]
      omega
    · have := length_takeRun (fun last item => !before item last) second rest
      simp only [List.length_cons]
      omega

def insert (before : α → α → Bool) (row : List α) (item : α) : List α :=
  row.insertIdx (halve .forward (fun other => !before item other) row 0 row.length) item

/-- The least length of a run in a list of `length` items: few enough for insertion, and such that
the number of runs is a power of two or just below one. `isRounded` says that a bit was lost on the
way. -/
def leastLength (length : Nat) (isRounded : Bool) : Nat :=
  if length < 64 then length + isRounded.toNat
  else leastLength (length / 2) (isRounded || length % 2 = 1)
termination_by length
decreasing_by omega

/-- The run at the start of a list, made at least `least` long, and the rest. -/
def nextRun (before : α → α → Bool) (least : Nat) (items : List α) : List α × List α :=
  let (run, rest) := firstRun before items
  let missing := least - run.length
  ((rest.take missing).foldl (insert before) run, rest.drop missing)

theorem length_nextRun (before : α → α → Bool) (least : Nat) (item : α) (rest : List α) :
    (nextRun before least (item :: rest)).2.length < (item :: rest).length := by
  have := length_firstRun before item rest
  simp only [nextRun, List.length_drop]
  omega

end PersonalFeed.Sorting
