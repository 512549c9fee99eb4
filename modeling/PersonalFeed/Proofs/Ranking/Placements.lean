import PersonalFeed.Proofs.Ranking.Normalized

/-!
Rounds over numbers of whatever arithmetic. As long as no score is infinitely small, a round places
an open row, so that all rounds together place every item once. As long as every score is a number,
no round fails.
-/

set_option autoImplicit false

namespace PersonalFeed

open Scalar

namespace Greedy

variable {α R : Type} [Scalar R] {near : α → α → Bool} {blend : Blend R}
variable {rows : List (Row α R)} {best : R} {P : R → Prop}

def Row.Always (blend : Blend R) (P : R → Prop) (row : Row α R) : Prop :=
  ∀ hits, P ({ row with hits := hits }.final blend)

omit [Scalar R] in
theorem before_of_round {placed : α} {place : Nat} {row : Row α R}
    (member : row ∈ countHits near placed (close rows place)) :
    ∃ before ∈ rows, ∃ hits isOpen, row = { before with hits := hits, isOpen := isOpen } := by
  have closed : ∀ row ∈ close rows place,
      ∃ before ∈ rows, ∃ isOpen, row = { before with isOpen := isOpen } := by
    intro row member
    obtain ⟨index, found⟩ := List.mem_iff_getElem?.1 member
    rw [close, List.getElem?_modify] at found
    obtain ⟨before, there, rfl⟩ := Option.map_eq_some_iff.1 found
    refine ⟨before, List.mem_of_getElem? there, ?_⟩
    split
    · exact ⟨false, rfl⟩
    · exact ⟨before.isOpen, rfl⟩
  obtain ⟨row, inside, rfl⟩ := List.mem_map.1 member
  obtain ⟨before, there, isOpen, rfl⟩ := closed row inside
  refine ⟨before, there, ?_⟩
  split
  · exact ⟨before.hits + 1, isOpen, rfl⟩
  · exact ⟨before.hits, isOpen, rfl⟩

theorem always_of_round (always : ∀ row ∈ rows, row.Always blend P) (placed : α) (place : Nat) :
    ∀ row ∈ countHits near placed (close rows place), row.Always blend P := by
  intro row member
  obtain ⟨before, there, _, _, rfl⟩ := before_of_round member
  exact always before there

theorem foldl_larger_mem (first : R) (rest : List R) :
    rest.foldl larger first ∈ first :: rest := by
  induction rest generalizing first with
  | nil => exact List.mem_singleton_self first
  | cons second rest ih =>
    rw [List.foldl_cons]
    rcases List.mem_cons.1 (ih (larger first second)) with same | later
    · rw [same, larger]
      split
      · exact List.mem_cons_of_mem _ List.mem_cons_self
      · exact List.mem_cons_self
    · exact List.mem_cons_of_mem _ (List.mem_cons_of_mem _ later)

theorem bestScore_mem (scored : bestScore? blend rows = some best) :
    ∃ row ∈ openRows rows, row.final blend = best := by
  rw [bestScore?, openScores_eq] at scored
  split at scored
  · cases scored
  · rename_i first rest scores
    split at scored
    · cases scored
    · cases scored
      have member := foldl_larger_mem first rest
      rw [← scores] at member
      exact List.mem_map.1 member

omit [Scalar R] in
theorem mem_of_openRows {row : Row α R} (isOpen : row ∈ openRows rows) :
    row ∈ rows ∧ row.isOpen = true := List.mem_filter.1 isOpen

theorem isOpen_of_winner (up : ∀ row ∈ rows, row.Always blend fun score => isBottom score = false)
    (scored : bestScore? blend rows = some best) {place : Nat} {row : Row α R}
    (won : winner? blend best rows = some (place, row)) : row.isOpen = true := by
  obtain ⟨leader, leading, rfl⟩ := bestScore_mem scored
  have notBottom := up leader (mem_of_openRows leading).1 leader.hits
  have hasBest := (winner_spec won).2
  cases isOpen : row.isOpen with
  | true => rfl
  | false =>
    rw [isBest, Row.openScore, isOpen, if_neg Bool.false_ne_true] at hasBest
    exact absurd hasBest (by rw [notBottom]; exact Bool.false_ne_true)

/-- What a round leaves: the item it places is no longer among the open ones, and scores keep their
properties. -/
theorem round_takes (up : ∀ row ∈ rows, row.Always blend fun score => isBottom score = false)
    {first : Placement α R} {after : List (Row α R)}
    (one : round near blend rows = .ok (first, after)) :
    ((openRows rows).map Row.item).Perm (first.item :: (openRows after).map Row.item) ∧
      ∀ P : R → Prop, (∀ row ∈ rows, row.Always blend P) → ∀ row ∈ after, row.Always blend P := by
  obtain ⟨best, place, row, scored, won, rfl, rfl⟩ := round_ok one
  constructor
  · have taken := openRows_close (winner_spec won).1 (isOpen_of_winner up scored won)
    have items : (openRows (countHits near row.item (close rows place))).map Row.item =
        (openRows (close rows place)).map Row.item := by
      rw [openRows_countHits, List.map_map]
      refine List.map_congr_left fun other _ => ?_
      rw [Function.comp_apply, Row.afterPlacing]
      split <;> rfl
    rw [items]
    exact taken.map Row.item
  · exact fun P always => always_of_round always row.item place

omit [Scalar R] in
theorem length_of_taken {after : List (Row α R)} {item : α} {count : Nat}
    (taken : ((openRows rows).map Row.item).Perm (item :: (openRows after).map Row.item))
    (size : (openRows rows).length = count + 1) : (openRows after).length = count := by
  have lengths := taken.length_eq
  rw [List.length_map, size, List.length_cons, List.length_map] at lengths
  omega

/-- As many rounds as there are open rows place the item of each of them once. -/
theorem rounds_perm {count : Nat} (size : (openRows rows).length = count)
    (up : ∀ row ∈ rows, row.Always blend fun score => isBottom score = false)
    {placements : List (Placement α R)} (ended : rounds near blend count rows = .ok placements) :
    (placements.map Placement.item).Perm ((openRows rows).map Row.item) := by
  induction count generalizing rows placements with
  | zero =>
    cases ended
    rw [List.eq_nil_of_length_eq_zero size]
    exact .refl []
  | succ count ih =>
    obtain ⟨first, after, rest, one, later, rfl⟩ := rounds_succ_ok ended
    obtain ⟨taken, keeps⟩ := round_takes up one
    have left := length_of_taken taken size
    exact ((ih left (keeps _ up) later).cons first.item).trans taken.symm

theorem bestScore_isOk (defined : ∀ row ∈ openRows rows, isNaN (row.final blend) = false)
    (some : openRows rows ≠ []) : ∃ best, bestScore? blend rows = .some best := by
  rw [bestScore?, openScores_eq]
  cases scores : (openRows rows).map (Row.final blend) with
  | nil => exact absurd (List.map_eq_nil_iff.1 scores) some
  | cons first rest =>
    refine ⟨_, if_neg ?_⟩
    rw [← scores, List.any_eq_true]
    rintro ⟨score, member, undefined⟩
    obtain ⟨row, isOpen, rfl⟩ := List.mem_map.1 member
    exact absurd undefined (by rw [defined row isOpen]; exact Bool.false_ne_true)

/-- A round with an open row makes a placement if every score is a number. -/
theorem round_isOk (near : α → α → Bool) (refl : ∀ x : R, isNaN x = false → le x x = true)
    (defined : ∀ row ∈ openRows rows, isNaN (row.final blend) = false)
    (some : openRows rows ≠ []) : ∃ first after, round near blend rows = .ok (first, after) := by
  obtain ⟨best, scored⟩ := bestScore_isOk defined some
  -- The best score is that of some row; a number is equal to itself, so this row has it.
  obtain ⟨leader, leading, same⟩ := bestScore_mem scored
  obtain ⟨there, isOpen⟩ := mem_of_openRows leading
  have number : isNaN best = false := same ▸ defined leader leading
  have equal : Scalar.eq best best = true := by
    rw [Scalar.eq, refl best number]
    rfl
  have hasBest : isBest blend best leader = true := by
    rw [isBest, Row.openScore, if_pos isOpen, same]
    exact equal
  obtain ⟨place, row, won⟩ := winner_isSome there hasBest
  exact ⟨_, _, by rw [round, scored, Option.bind_some, won]⟩

theorem placed_of_rounds {count : Nat} {placements : List (Placement α R)}
    (ended : rounds near blend count rows = .ok placements) :
    ∀ placement ∈ placements, ∃ row ∈ rows, ∃ hits,
      placement = ⟨row.item, { row with hits := hits }.diversity,
        { row with hits := hits }.final blend⟩ := by
  induction count generalizing rows placements with
  | zero =>
    cases ended
    exact fun placement member => absurd member List.not_mem_nil
  | succ count ih =>
    obtain ⟨first, after, rest, one, later, rfl⟩ := rounds_succ_ok ended
    obtain ⟨best, place, row, _, won, rfl, rfl⟩ := round_ok one
    intro placement member
    rcases List.mem_cons.1 member with rfl | member
    · exact ⟨row, List.mem_of_getElem? (winner_spec won).1, row.hits, rfl⟩
    · obtain ⟨left, inside, hits, rfl⟩ := ih later placement member
      obtain ⟨before, there, _, _, rfl⟩ := before_of_round inside
      exact ⟨before, there, hits, rfl⟩

theorem rounds_isOk (near : α → α → Bool) (refl : ∀ x : R, isNaN x = false → le x x = true)
    {count : Nat} (size : (openRows rows).length = count)
    (up : ∀ row ∈ rows, row.Always blend fun score => isBottom score = false)
    (defined : ∀ row ∈ rows, row.Always blend fun score => isNaN score = false) :
    ∃ placements, rounds near blend count rows = .ok placements := by
  induction count generalizing rows with
  | zero => exact ⟨[], rfl⟩
  | succ count ih =>
    have some : openRows rows ≠ [] := by
      intro none
      rw [none] at size
      cases size
    obtain ⟨first, after, one⟩ := round_isOk near refl
      (fun row isOpen => defined row (mem_of_openRows isOpen).1 row.hits) some
    obtain ⟨taken, keeps⟩ := round_takes up one
    have left := length_of_taken taken size
    obtain ⟨rest, later⟩ := ih left (keeps _ up) (keeps _ defined)
    refine ⟨first :: rest, ?_⟩
    rw [rounds_of_round one, later]
    rfl

end Greedy

section

variable {C R : Type} [Scalar R] [Component C R] {weights : Weights R} {threshold : R}
variable {candidates : List (Candidate C R)}

def Candidate.diversityWith (c : Candidate C R) (hits : Nat) : R :=
  c.novelty / (one + ofInt hits * ratio 1 2)

def Candidate.finalWith (weights : Weights R) (c : Candidate C R) (hits : Nat) : R :=
  { c.row weights c with hits := hits }.final weights.blend

omit [Component C R] in
theorem openRows_candidates :
    Greedy.openRows (candidates.map fun c => c.row weights c) =
      candidates.map fun c => c.row weights c := by
  refine List.filter_eq_self.2 fun row member => ?_
  obtain ⟨c, _, rfl⟩ := List.mem_map.1 member
  rfl

omit [Component C R] in
theorem always_candidates {P : R → Prop}
    (always : ∀ c ∈ candidates, ∀ hits, P (c.finalWith weights hits)) :
    ∀ row ∈ candidates.map fun c => c.row weights c, row.Always weights.blend P := by
  intro row member
  obtain ⟨c, inside, rfl⟩ := List.mem_map.1 member
  exact always c inside

theorem posts_of_rank {ranked : List (Scored C R)}
    (up : ∀ c ∈ candidates, ∀ hits, isBottom (c.finalWith weights hits) = false)
    (ended : rank weights threshold candidates = .ok ranked) :
    (ranked.map Scored.post).Perm (candidates.map Candidate.post) := by
  rw [rank_eq_rankBy] at ended
  obtain ⟨placements, ordered, ended⟩ := ok_of_bind ended
  cases ended
  have placed := Greedy.rounds_perm (by rw [openRows_candidates]) (always_candidates up) ordered
  rw [openRows_candidates, List.map_map] at placed
  rw [List.map_map]
  have posts := placed.map Candidate.post
  rw [List.map_map, List.map_map] at posts
  exact posts

theorem nodup_of_rank {ranked : List (Scored C R)}
    (once : (candidates.map (·.post.id)).Nodup)
    (up : ∀ c ∈ candidates, ∀ hits, isBottom (c.finalWith weights hits) = false)
    (ended : rank weights threshold candidates = .ok ranked) :
    (ranked.map (·.post.id)).Nodup := by
  have ids := (posts_of_rank up ended).map Post.id
  rw [List.map_map, List.map_map] at ids
  exact ids.nodup_iff.2 once

theorem scored_of_rank {ranked : List (Scored C R)}
    (ended : rank weights threshold candidates = .ok ranked) :
    ∀ s ∈ ranked, ∃ c ∈ candidates, ∃ hits,
      s = c.scored (c.diversityWith hits) (c.finalWith weights hits) := by
  rw [rank_eq_rankBy] at ended
  obtain ⟨placements, ordered, ended⟩ := ok_of_bind ended
  cases ended
  intro s member
  obtain ⟨placement, placed, rfl⟩ := List.mem_map.1 member
  obtain ⟨row, inside, hits, rfl⟩ := Greedy.placed_of_rounds ordered placement placed
  obtain ⟨c, there, rfl⟩ := List.mem_map.1 inside
  exact ⟨c, there, hits, rfl⟩

theorem final_of_rank {P : R → Prop} {ranked : List (Scored C R)}
    (always : ∀ c ∈ candidates, ∀ hits, P (c.finalWith weights hits))
    (ended : rank weights threshold candidates = .ok ranked) : ∀ s ∈ ranked, P s.final := by
  intro s member
  obtain ⟨c, inside, hits, rfl⟩ := scored_of_rank ended s member
  exact always c inside hits

theorem rank_isOk (refl : ∀ x : R, isNaN x = false → le x x = true)
    (up : ∀ c ∈ candidates, ∀ hits, isBottom (c.finalWith weights hits) = false)
    (defined : ∀ c ∈ candidates, ∀ hits, isNaN (c.finalWith weights hits) = false) :
    ∃ ranked, rank weights threshold candidates = .ok ranked := by
  obtain ⟨placements, ordered⟩ := Greedy.rounds_isOk (Candidate.isNear threshold) refl
    (by rw [openRows_candidates]) (always_candidates up) (always_candidates defined)
  refine ⟨placements.map fun p => p.item.scored p.diversity p.final, ?_⟩
  rw [rank_eq_rankBy, rankBy, Greedy.order, ordered]
  rfl

end

end PersonalFeed
