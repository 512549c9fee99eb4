import PersonalFeed.Ranking.Rank
import PersonalFeed.Proofs.Results

/-!
Rounds of the greedy order. A round that succeeds places a row that is there and has the best score.
It closes that row and counts hits of open ones, and neither changes which items there are.
-/

set_option autoImplicit false

namespace PersonalFeed.Greedy

variable {α R : Type}

@[simp] theorem items_close (rows : List (Row α R)) (place : Nat) :
    (close rows place).map Row.item = rows.map Row.item := by
  induction rows generalizing place with
  | nil => rw [close, List.modify_nil]
  | cons row rest ih =>
    cases place with
    | zero => rfl
    | succ place => exact congrArg (row.item :: ·) (ih place)

@[simp] theorem items_countHits (near : α → α → Bool) (placed : α) (rows : List (Row α R)) :
    (countHits near placed rows).map Row.item = rows.map Row.item := by
  rw [countHits, List.map_map]
  refine List.map_congr_left fun row _ => ?_
  rw [Function.comp_apply]
  split <;> rfl

def openRows (rows : List (Row α R)) : List (Row α R) := rows.filter Row.isOpen

def Row.afterPlacing (near : α → α → Bool) (placed : α) (row : Row α R) : Row α R :=
  if near placed row.item then { row with hits := row.hits + 1 } else row

theorem openRows_countHits (near : α → α → Bool) (placed : α) (rows : List (Row α R)) :
    openRows (countHits near placed rows) = (openRows rows).map (Row.afterPlacing near placed) := by
  induction rows with
  | nil => rfl
  | cons row rest ih =>
    have later : openRows (countHits near placed (row :: rest)) =
        if row.isOpen then row.afterPlacing near placed :: openRows (countHits near placed rest)
        else openRows (countHits near placed rest) := by
      cases isOpen : row.isOpen <;> cases close : near placed row.item <;>
        simp [openRows, countHits, Row.afterPlacing, isOpen, close]
    rw [later, ih]
    cases isOpen : row.isOpen <;> simp [openRows, isOpen]

theorem openRows_close {rows : List (Row α R)} {place : Nat} {row : Row α R}
    (there : rows[place]? = some row) (isOpen : row.isOpen = true) :
    (openRows rows).Perm (row :: openRows (close rows place)) := by
  induction rows generalizing place with
  | nil => cases there
  | cons first rest ih =>
    cases place with
    | zero =>
      cases there
      simp [openRows, close, isOpen]
    | succ place =>
      have later := ih there
      have rows : openRows (close (first :: rest) (place + 1)) =
          if first.isOpen then first :: openRows (close rest place)
          else openRows (close rest place) := by
        cases firstOpen : first.isOpen <;> simp [openRows, close, firstOpen]
      rw [rows]
      cases firstOpen : first.isOpen with
      | true =>
        simp only [openRows, List.filter_cons, firstOpen, if_true]
        -- An open row in front stays in front, so the closed one is moved past it.
        exact (later.cons first).trans (.swap row first _)
      | false => simpa [openRows, firstOpen] using later

variable [Scalar R] {near : α → α → Bool} {blend : Blend R} {best : R} {rows after : List (Row α R)}

def prefer (leader : Option (Nat × Row α R)) (entry : Row α R × Nat) : Option (Nat × Row α R) :=
  match leader with
  | none => some (entry.2, entry.1)
  | some (place, front) =>
    if entry.1.winsTie front then some (entry.2, entry.1) else some (place, front)

theorem winner?_eq (blend : Blend R) (best : R) (rows : List (Row α R)) :
    winner? blend best rows =
      (rows.zipIdx.filter fun entry => isBest blend best entry.1).foldl prefer none := rfl

theorem prefer_isSome (leader : Option (Nat × Row α R)) (entry : Row α R × Nat) :
    ∃ place row, prefer leader entry = some (place, row) ∧
      (leader = some (place, row) ∨ entry = (row, place)) := by
  cases leader with
  | none => exact ⟨entry.2, entry.1, rfl, .inr rfl⟩
  | some front =>
    rw [prefer]
    split
    · exact ⟨entry.2, entry.1, rfl, .inr rfl⟩
    · exact ⟨front.1, front.2, rfl, .inl rfl⟩

theorem foldl_prefer {entries : List (Row α R × Nat)} {leader : Option (Nat × Row α R)}
    {place : Nat} {row : Row α R} (found : entries.foldl prefer leader = some (place, row)) :
    leader = some (place, row) ∨ (row, place) ∈ entries := by
  induction entries generalizing leader with
  | nil => exact .inl found
  | cons entry rest ih =>
    obtain ⟨place', row', next, origin⟩ := prefer_isSome leader entry
    rw [List.foldl_cons, next] at found
    rcases ih found with same | member
    · obtain ⟨rfl, rfl⟩ := Prod.mk.inj (Option.some.inj same)
      rcases origin with same | rfl
      · exact .inl same
      · exact .inr List.mem_cons_self
    · exact .inr (List.mem_cons_of_mem _ member)

theorem winner_spec {place : Nat} {row : Row α R}
    (found : winner? blend best rows = some (place, row)) :
    rows[place]? = some row ∧ isBest blend best row = true := by
  rw [winner?_eq] at found
  rcases foldl_prefer found with absurd | member
  · cases absurd
  · obtain ⟨inside, isBest⟩ := List.mem_filter.1 member
    exact ⟨List.mk_mem_zipIdx_iff_getElem?.1 inside, isBest⟩

theorem foldl_prefer_isSome (leader : Nat × Row α R) (entries : List (Row α R × Nat)) :
    ∃ place row, entries.foldl prefer (some leader) = some (place, row) := by
  induction entries generalizing leader with
  | nil => exact ⟨leader.1, leader.2, rfl⟩
  | cons entry rest ih =>
    obtain ⟨place, row, next, _⟩ := prefer_isSome (some leader) entry
    rw [List.foldl_cons, next]
    exact ih (place, row)

theorem winner_isSome {row : Row α R} (there : row ∈ rows) (hasBest : isBest blend best row = true) :
    ∃ place row, winner? blend best rows = some (place, row) := by
  obtain ⟨place, found⟩ := List.getElem?_of_mem there
  have member : (row, place) ∈ rows.zipIdx.filter fun entry => isBest blend best entry.1 :=
    List.mem_filter.2 ⟨List.mk_mem_zipIdx_iff_getElem?.2 found, hasBest⟩
  rw [winner?_eq]
  cases entries : rows.zipIdx.filter fun entry => isBest blend best entry.1 with
  | nil =>
    rw [entries] at member
    cases member
  | cons entry rest => exact foldl_prefer_isSome (entry.2, entry.1) rest

theorem openScores_eq (blend : Blend R) (rows : List (Row α R)) :
    rows.filterMap (Row.openScore blend) = (openRows rows).map (Row.final blend) := by
  induction rows with
  | nil => rfl
  | cons row rest ih =>
    cases isOpen : row.isOpen <;> simp [openRows, Row.openScore, isOpen] <;>
      simpa [openRows] using ih

theorem round_ok {placement : Placement α R}
    (ended : round near blend rows = .ok (placement, after)) :
    ∃ best place row, bestScore? blend rows = some best ∧
      winner? blend best rows = some (place, row) ∧
      placement = ⟨row.item, row.diversity, row.final blend⟩ ∧
      after = countHits near row.item (close rows place) := by
  unfold round at ended
  split at ended
  · cases ended
  · rename_i place row found
    obtain ⟨best, scored, won⟩ := Option.bind_eq_some_iff.1 found
    cases ended
    exact ⟨best, place, row, scored, won, rfl, rfl⟩

/-- More rounds than one: the first, and the others on the rows after it. -/
theorem rounds_succ (near : α → α → Bool) (blend : Blend R) (count : Nat) (rows : List (Row α R)) :
    rounds near blend (count + 1) rows = (round near blend rows).bind fun first =>
      (rounds near blend count first.2).map (first.1 :: ·) := by
  rw [rounds]
  cases round near blend rows with
  | error cause => rfl
  | ok first =>
    change (rounds near blend count first.2 >>= _) = (rounds near blend count first.2).map _
    cases rounds near blend count first.2 <;> rfl

theorem rounds_of_round {first : Placement α R} (one : round near blend rows = .ok (first, after))
    (count : Nat) :
    rounds near blend (count + 1) rows = (rounds near blend count after).map (first :: ·) := by
  rw [rounds_succ, one]
  rfl

theorem rounds_succ_ok {count : Nat} {placements : List (Placement α R)}
    (ended : rounds near blend (count + 1) rows = .ok placements) :
    ∃ first after rest, round near blend rows = .ok (first, after) ∧
      rounds near blend count after = .ok rest ∧ placements = first :: rest := by
  obtain ⟨⟨first, after⟩, one, ended⟩ := ok_of_bind ended
  obtain ⟨rest, later, ended⟩ := ok_of_bind ended
  exact ⟨first, after, rest, one, later, (Except.ok.inj ended).symm⟩

theorem item_of_rounds {count : Nat} {placements : List (Placement α R)}
    (ended : rounds near blend count rows = .ok placements) :
    ∀ placement ∈ placements, placement.item ∈ rows.map Row.item := by
  induction count generalizing rows placements with
  | zero =>
    cases ended
    exact fun placement member => absurd member List.not_mem_nil
  | succ count ih =>
    obtain ⟨first, after, rest, one, later, rfl⟩ := rounds_succ_ok ended
    obtain ⟨best, place, row, _, won, rfl, rfl⟩ := round_ok one
    intro placement member
    rcases List.mem_cons.1 member with rfl | member
    · exact List.mem_map.2 ⟨row, List.mem_of_getElem? (winner_spec won).1, rfl⟩
    · have inside := ih later placement member
      rwa [items_countHits, items_close] at inside

end PersonalFeed.Greedy

namespace PersonalFeed

variable {C R : Type} [Scalar R] [Component C R]

theorem mem_of_rank {weights : Weights R} {threshold : R} {candidates : List (Candidate C R)}
    {ranked : List (Scored C R)} (ended : rank weights threshold candidates = .ok ranked)
    {scored : Scored C R} (member : scored ∈ ranked) :
    ∃ c ∈ candidates, ∃ diversity final, scored = c.scored diversity final := by
  obtain ⟨placements, ordered, ended⟩ := ok_of_bind ended
  cases ended
  obtain ⟨placement, placed, rfl⟩ := List.mem_map.1 member
  have inside := Greedy.item_of_rounds ordered placement placed
  simp only [List.map_map, List.mem_map, Function.comp_apply, Candidate.row] at inside
  obtain ⟨c, candidate, same⟩ := inside
  exact ⟨c, candidate, placement.diversity, placement.final, by rw [← same]⟩

end PersonalFeed
