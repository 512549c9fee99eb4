import PersonalFeed.Sorting.Boundary

/-!
Merging two neighbouring runs. Heads of the two rows are placed one at a time; a row that wins often
enough is asked by galloping how many of its items come next, for as long as that pays. How many
wins are enough goes up and down with the experience of the merges before.
-/

set_option autoImplicit false

namespace PersonalFeed.Sorting

def worthwhile : Nat := 7

/-- A merge under way. The first row is the one that is kept aside: its last item has a place when
the second row is over. -/
structure Merge (α : Type) where
  /-- What has a place, the latest first. -/
  placed : List α
  first : List α
  second : List α

namespace Merge

variable {α : Type}

def size (m : Merge α) : Nat := m.first.length + m.second.length

def moveFirst (count : Nat) (m : Merge α) : Merge α :=
  ⟨(m.first.take count).reverse ++ m.placed, m.first.drop count, m.second⟩

def moveSecond (count : Nat) (m : Merge α) : Merge α :=
  ⟨(m.second.take count).reverse ++ m.placed, m.first, m.second.drop count⟩

def isOver (m : Merge α) : Bool := m.first.length ≤ 1 || m.second.isEmpty

def items (m : Merge α) : List α := m.placed.reverse ++ m.second ++ m.first

theorem size_moveFirst (count : Nat) (m : Merge α) : (m.moveFirst count).size ≤ m.size := by
  simp only [size, moveFirst, List.length_drop]
  omega

theorem size_moveSecond (count : Nat) (m : Merge α) : (m.moveSecond count).size ≤ m.size := by
  simp only [size, moveSecond, List.length_drop]
  omega

theorem size_moveFirst_lt {m : Merge α} (h : m.isOver = false) :
    (m.moveFirst 1).size < m.size := by
  simp [isOver] at h
  simp only [size, moveFirst, List.length_drop]
  omega

theorem size_moveSecond_lt {m : Merge α} (h : m.isOver = false) :
    (m.moveSecond 1).size < m.size := by
  have : 0 < m.second.length := List.length_pos_iff.2 (by simp [isOver] at h; exact h.2)
  simp only [size, moveSecond, List.length_drop]
  omega

/-- Place heads one at a time, until the merge is over or one row has won `patience` times in
succession. `leads` says whether the head of the second row goes in front of the head of the first;
`firstWins` and `secondWins` count the latest wins. -/
def oneByOne (leads : α → α → Bool) (patience firstWins secondWins : Nat) (m : Merge α) : Merge α :=
  if m.isOver then m
  else
    match m.first, m.second with
    | f :: _, s :: _ =>
      if leads s f then
        let later := m.moveSecond 1
        if patience ≤ secondWins + 1 then later
        else oneByOne leads patience 0 (secondWins + 1) later
      else
        let later := m.moveFirst 1
        if patience ≤ firstWins + 1 then later
        else oneByOne leads patience (firstWins + 1) 0 later
    | _, _ => m
termination_by m.size
decreasing_by
  · exact size_moveSecond_lt (by simpa using ‹¬m.isOver = true›)
  · exact size_moveFirst_lt (by simpa using ‹¬m.isOver = true›)

theorem size_oneByOne (leads : α → α → Bool) (patience firstWins secondWins : Nat)
    (m : Merge α) : (m.oneByOne leads patience firstWins secondWins).size ≤ m.size := by
  fun_induction oneByOne leads patience firstWins secondWins m with
  | case1 | case6 => exact Nat.le_refl _
  | case2 => exact size_moveSecond ..
  | case3 _ _ _ _ _ _ _ _ _ _ _ _ _ ih => exact Nat.le_trans ih (size_moveSecond ..)
  | case4 => exact size_moveFirst ..
  | case5 _ _ _ _ _ _ _ _ _ _ _ _ _ ih => exact Nat.le_trans ih (size_moveFirst ..)

/-- Place the items of the first row that the head of the second does not lead, then that head. The
count is that of the first row. -/
def gallopFirst (direction : Direction) (leads : α → α → Bool) (m : Merge α) : Nat × Merge α :=
  match m.second with
  | [] => (0, m)
  | s :: _ =>
    let count := gallop direction (fun f => !leads s f) m.first
    let m := m.moveFirst count
    (count, if m.isOver then m else m.moveSecond 1)

/-- Place the items of the second row that lead the head of the first, then that head. The count is
that of the second row. -/
def gallopSecond (direction : Direction) (leads : α → α → Bool) (m : Merge α) : Nat × Merge α :=
  match m.first with
  | [] => (0, m)
  | f :: _ =>
    let count := gallop direction (fun s => leads s f) m.second
    let m := m.moveSecond count
    (count, if m.isOver then m else m.moveFirst 1)

theorem size_gallopFirst (direction : Direction) (leads : α → α → Bool) {m : Merge α}
    (h : (m.gallopFirst direction leads).2.isOver = false) :
    (m.gallopFirst direction leads).2.size < m.size := by
  unfold gallopFirst at h ⊢
  split at h
  · rename_i hs
    simp [isOver, hs] at h
  · simp only at h ⊢
    split at h
    · simp_all
    · rename_i hover
      rw [if_neg hover]
      exact Nat.lt_of_lt_of_le (size_moveSecond_lt (by simpa using hover)) (size_moveFirst ..)

theorem size_gallopSecond (direction : Direction) (leads : α → α → Bool) {m : Merge α}
    (h : (m.gallopSecond direction leads).2.isOver = false) :
    (m.gallopSecond direction leads).2.size < m.size := by
  unfold gallopSecond at h ⊢
  split at h
  · rename_i hf
    simp [isOver, hf] at h
  · simp only at h ⊢
    split at h
    · simp_all
    · rename_i hover
      rw [if_neg hover]
      exact Nat.lt_of_lt_of_le (size_moveFirst_lt (by simpa using hover)) (size_moveSecond ..)

/-- One gallop over each row, over the earlier run first. The count is that of the longer gallop. -/
def gallopBoth (direction : Direction) (leads : α → α → Bool) (m : Merge α) : Nat × Merge α :=
  match direction with
  | .forward =>
    let one := m.gallopFirst direction leads
    if one.2.isOver then one
    else
      let other := one.2.gallopSecond direction leads
      (Nat.max one.1 other.1, other.2)
  | .backward =>
    let one := m.gallopSecond direction leads
    if one.2.isOver then one
    else
      let other := one.2.gallopFirst direction leads
      (Nat.max one.1 other.1, other.2)

theorem size_gallopBoth (direction : Direction) (leads : α → α → Bool) {m : Merge α}
    (h : (m.gallopBoth direction leads).2.isOver = false) :
    (m.gallopBoth direction leads).2.size < m.size := by
  cases direction with
  | forward =>
    simp only [gallopBoth] at h ⊢
    split at h
    · simp_all
    · rename_i hone
      rw [if_neg hone]
      exact Nat.lt_trans (size_gallopSecond _ _ h) (size_gallopFirst _ _ (by simpa using hone))
  | backward =>
    simp only [gallopBoth] at h ⊢
    split at h
    · simp_all
    · rename_i hone
      rw [if_neg hone]
      exact Nat.lt_trans (size_gallopFirst _ _ h) (size_gallopSecond _ _ (by simpa using hone))

/-- Gallop over both rows as long as that pays. Each time makes the merge more eager to gallop
again, and the end less. -/
def gallops (direction : Direction) (leads : α → α → Bool) (patience : Nat) (m : Merge α) :
    Nat × Merge α :=
  let patience := Nat.max 1 (patience - 1)
  let both := m.gallopBoth direction leads
  if both.2.isOver then (patience, both.2)
  else if worthwhile ≤ both.1 then both.2.gallops direction leads patience
  else (patience + 1, both.2)
termination_by m.size
decreasing_by exact size_gallopBoth _ _ (by simpa using ‹¬both.2.isOver = true›)

theorem size_gallops (direction : Direction) (leads : α → α → Bool) (patience : Nat) (m : Merge α)
    (h : (m.gallops direction leads patience).2.isOver = false) :
    (m.gallops direction leads patience).2.size < m.size := by
  fun_induction gallops direction leads patience m with
  | case1 => simp_all
  | case2 _ _ _ _ hover _ ih =>
    exact Nat.lt_trans (ih h) (size_gallopBoth _ _ (by simpa using hover))
  | case3 => exact size_gallopBoth _ _ h

def rounds (direction : Direction) (leads : α → α → Bool) (patience : Nat) (m : Merge α) :
    Nat × Merge α :=
  let walked := m.oneByOne leads patience 0 0
  if walked.isOver then (patience, walked)
  else
    let galloped := walked.gallops direction leads (patience + 1)
    if galloped.2.isOver then galloped else galloped.2.rounds direction leads galloped.1
termination_by m.size
decreasing_by
  exact Nat.lt_of_lt_of_le (size_gallops _ _ _ _ (by simpa using ‹¬galloped.2.isOver = true›))
    (size_oneByOne ..)

end Merge

variable {α : Type}

/-- Merge two runs, the head of the second of which goes first in the direction of the merge. Also
the patience for the merges to come. -/
def mergeTowards (direction : Direction) (before : α → α → Bool) (patience : Nat)
    (run next : List α) : Nat × List α :=
  match direction with
  | .forward =>
    let start : Merge α := ⟨[], run, next⟩
    let (patience, merge) := (start.moveSecond 1).rounds direction before patience
    (patience, merge.items)
  | .backward =>
    -- From the back, an item leads the other one if that comes before it.
    let start : Merge α := ⟨[], next.reverse, run.reverse⟩
    let (patience, merge) :=
      (start.moveSecond 1).rounds direction (fun s f => before f s) patience
    (patience, merge.items.reverse)

/-- Merge two neighbouring runs. What is in its place already is left alone, and the shorter of the
rows that remain is kept aside. -/
def mergeRuns (before : α → α → Bool) (patience : Nat) (run next : List α) : Nat × List α :=
  match next with
  | [] => (patience, run)
  | head :: _ =>
    -- The start of the run that the head of the next one does not come before has its place.
    let settled := gallop .forward (fun item => !before head item) run
    let (low, run) := run.splitAt settled
    match run.getLast? with
    | none => (patience, low ++ next)
    | some last =>
      -- So has the end of the next run that does not come before the last item.
      let settled := gallop .backward (fun item => !before item last) next.reverse
      let (next, high) := next.splitAt (next.length - settled)
      if next.isEmpty then (patience, low ++ run ++ high)
      else
        let direction : Direction := if run.length ≤ next.length then .forward else .backward
        let (patience, merged) := mergeTowards direction before patience run next
        (patience, low ++ merged ++ high)

end PersonalFeed.Sorting
