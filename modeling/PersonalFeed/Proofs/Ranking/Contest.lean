import Mathlib.Data.List.Nodup
import PersonalFeed.Proofs.Number.Order
import PersonalFeed.Proofs.Ranking.Placements
import PersonalFeed.Proofs.Text

/-!
Which row a round places. The moment and the id put rows of one score in order, so as long as no two
rows share an id there is a single row that wins a round. It is found by looking at the rows as a
set, and what becomes of a row afterwards depends on that row and on the winner alone.
-/

set_option autoImplicit false

namespace PersonalFeed

open Scalar

namespace Greedy

variable {α R : Type}

structure AreApart [Scalar R] (rows : List (Row α R)) : Prop where
  once : (rows.map Row.id).Nodup
  timed : ∀ row ∈ rows, isNaN row.moment = false

def Row.advance (near : α → α → Bool) (row winner : Row α R) : Row α R :=
  let row := if row.id = winner.id then { row with isOpen := false } else row
  if row.isOpen && near winner.item row.item then { row with hits := row.hits + 1 } else row

namespace Row

variable (near : α → α → Bool) (row winner : Row α R)

@[simp] theorem advance_item : (row.advance near winner).item = row.item := by
  unfold advance
  dsimp only
  split <;> split <;> rfl

@[simp] theorem advance_id : (row.advance near winner).id = row.id := by
  unfold advance
  dsimp only
  split <;> split <;> rfl

@[simp] theorem advance_moment : (row.advance near winner).moment = row.moment := by
  unfold advance
  dsimp only
  split <;> split <;> rfl

def placed [Scalar R] (blend : Blend R) (row : Row α R) : Placement α R :=
  ⟨row.item, row.diversity, row.final blend⟩

end Row

/-- Among rows of different ids, the one at a place is the only one to be closed there. -/
theorem close_eq {rows : List (Row α R)} (once : (rows.map Row.id).Nodup) {place : Nat}
    {winner : Row α R} (there : rows[place]? = some winner) :
    close rows place =
      rows.map fun row => if row.id = winner.id then { row with isOpen := false } else row := by
  induction rows generalizing place with
  | nil => cases there
  | cons first rest ih =>
    obtain ⟨fresh, once⟩ := List.nodup_cons.1 once
    cases place with
    | zero =>
      cases there
      -- The ids differ, so no later row is the one that was closed.
      have others : rest.map (fun row =>
          if row.id = winner.id then { row with isOpen := false } else row) = rest := by
        refine (List.map_congr_left fun row member => if_neg fun same => ?_).trans (List.map_id _)
        exact fresh (same ▸ List.mem_map_of_mem member)
      rw [List.map_cons, others, if_pos rfl]
      rfl
    | succ place =>
      have other : first.id ≠ winner.id := fun same =>
        fresh (same ▸ List.mem_map_of_mem (List.mem_of_getElem? there))
      rw [List.map_cons, if_neg other, ← ih once there]
      rfl

theorem countHits_close {rows : List (Row α R)} (once : (rows.map Row.id).Nodup) {place : Nat}
    {winner : Row α R} (there : rows[place]? = some winner) (near : α → α → Bool) :
    countHits near winner.item (close rows place) = rows.map (·.advance near winner) := by
  rw [close_eq once there, countHits, List.map_map]
  rfl

variable [Scalar R] {near : α → α → Bool} {blend : Blend R} {best : R}
variable {rows others after : List (Row α R)}

namespace AreApart

theorem advance (apart : AreApart rows) (near : α → α → Bool) (winner : Row α R) :
    AreApart (rows.map (·.advance near winner)) where
  once := by
    rw [List.map_map]
    have ids : Row.id ∘ (fun row => row.advance near winner) = Row.id :=
      funext fun row => Row.advance_id near row winner
    rw [ids]
    exact apart.once
  timed row member := by
    obtain ⟨before, inside, rfl⟩ := List.mem_map.1 member
    rw [Row.advance_moment]
    exact apart.timed before inside

theorem sublist (apart : AreApart rows) (sub : others.Sublist rows) : AreApart others :=
  ⟨(sub.map Row.id).nodup apart.once, fun row member => apart.timed row (sub.subset member)⟩

theorem perm (apart : AreApart rows) (same : others.Perm rows) : AreApart others :=
  ⟨(same.map Row.id).nodup_iff.2 apart.once,
    fun row member => apart.timed row (same.subset member)⟩

theorem eq_of_id (apart : AreApart rows) {a b : Row α R} (first : a ∈ rows) (second : b ∈ rows)
    (same : a.id = b.id) : a = b := List.inj_on_of_nodup_map apart.once first second same

end AreApart

section

variable [OrderRules R]

namespace Row

variable {a b c : Row α R}

/-- A later row wins a tie, and of two rows of one moment the one with the smaller id. -/
theorem not_winsTie_iff (left : isNaN a.moment = false) (right : isNaN b.moment = false) :
    ¬ a.winsTie b = true ↔
      le a.moment b.moment = true ∧ (le b.moment a.moment = true → ¬ a.id < b.id) := by
  unfold winsTie
  rw [OrderRules.lt_eq _ _ right left, OrderRules.lt_eq _ _ left right]
  cases le a.moment b.moment <;> cases le b.moment a.moment <;> simp

theorem not_winsTie_self (timed : isNaN a.moment = false) : ¬ a.winsTie a = true :=
  (not_winsTie_iff timed timed).2
    ⟨OrderRules.le_refl _ timed, fun _ => Text.lt_irrefl a.id⟩

/-- A row that does not win against a second one does not win against what that one does not win
against. -/
theorem not_winsTie_trans (timed : isNaN a.moment = false) (timed' : isNaN b.moment = false)
    (timed'' : isNaN c.moment = false) (first : ¬ a.winsTie b = true)
    (second : ¬ b.winsTie c = true) : ¬ a.winsTie c = true := by
  rw [not_winsTie_iff timed timed'] at first
  rw [not_winsTie_iff timed' timed''] at second
  rw [not_winsTie_iff timed timed'']
  refine ⟨OrderRules.le_trans _ _ _ first.1 second.1, fun back => ?_⟩
  have earlier := OrderRules.le_trans _ _ _ second.1 back
  have later := OrderRules.le_trans _ _ _ back first.1
  exact Text.not_lt_trans (first.2 earlier) (second.2 later)

theorem winsTie_asymm (left : isNaN a.moment = false) (right : isNaN b.moment = false)
    (wins : a.winsTie b = true) : ¬ b.winsTie a = true := by
  have not := mt (not_winsTie_iff left right).2 (not_not.2 wins)
  rw [not_and, not_forall, Classical.not_imp] at not
  rw [not_winsTie_iff right left]
  by_cases notLater : le a.moment b.moment = true
  · obtain ⟨together, smaller⟩ := not notLater
    exact ⟨together, fun _ back => Text.lt_irrefl _ (Text.lt_trans smaller.1 back)⟩
  · exact ⟨OrderRules.le_of_not_le left right notLater, fun back => absurd back notLater⟩

theorem id_of_tie (left : isNaN a.moment = false) (right : isNaN b.moment = false)
    (first : ¬ a.winsTie b = true) (second : ¬ b.winsTie a = true) : a.id = b.id := by
  rw [not_winsTie_iff left right] at first
  rw [not_winsTie_iff right left] at second
  exact Text.eq_of_not_lt (first.2 second.1) (second.2 first.1)

end Row

/-- The best score is that of an open row, and no open row has a larger one. -/
theorem bestScore_spec (scored : bestScore? blend rows = some best) :
    (∀ row ∈ openRows rows, isNaN (row.final blend) = false) ∧
      (∃ row ∈ openRows rows, row.final blend = best) ∧
      ∀ row ∈ openRows rows, le (row.final blend) best = true := by
  have attained := bestScore_mem scored
  rw [bestScore?, openScores_eq] at scored
  split at scored
  · cases scored
  · rename_i first rest scores
    split at scored
    · cases scored
    · rename_i numbers
      cases scored
      have score {row : Row α R} (isOpen : row ∈ openRows rows) : row.final blend ∈ first :: rest :=
        scores ▸ List.mem_map_of_mem isOpen
      have defined : ∀ x ∈ first :: rest, isNaN x = false := fun x member =>
        Bool.eq_false_iff.2 fun undefined => numbers (List.any_eq_true.2 ⟨x, member, undefined⟩)
      exact ⟨fun row isOpen => defined _ (score isOpen), attained,
        fun row isOpen => OrderRules.le_foldl_larger defined _ (score isOpen)⟩

/-- Of the leader and the next row one goes on, and the other does not win the tie against it. -/
theorem prefer_unbeaten {entry : Row α R × Nat} {leader : Option (Nat × Row α R)}
    (timed : isNaN entry.1.moment = false)
    (timed' : ∀ front, leader = some front → isNaN front.2.moment = false) {place : Nat}
    {row : Row α R} (next : prefer leader entry = some (place, row)) :
    ¬ entry.1.winsTie row = true ∧ ∀ front, leader = some front → ¬ front.2.winsTie row = true := by
  cases leader with
  | none =>
    cases next
    exact ⟨Row.not_winsTie_self timed, fun front same => by cases same⟩
  | some front =>
    have timed' := timed' front rfl
    rw [prefer] at next
    split at next
    · rename_i wins
      cases next
      refine ⟨Row.not_winsTie_self timed, fun front same => ?_⟩
      cases same
      exact Row.winsTie_asymm timed timed' wins
    · rename_i loses
      cases next
      refine ⟨loses, fun front same => ?_⟩
      cases same
      exact Row.not_winsTie_self timed'

theorem foldl_prefer_unbeaten {entries : List (Row α R × Nat)} {leader : Option (Nat × Row α R)}
    (timed : ∀ entry ∈ entries, isNaN entry.1.moment = false)
    (timed' : ∀ front, leader = some front → isNaN front.2.moment = false) {place : Nat}
    {row : Row α R} (found : entries.foldl prefer leader = some (place, row)) :
    (∀ entry ∈ entries, ¬ entry.1.winsTie row = true) ∧
      ∀ front, leader = some front → ¬ front.2.winsTie row = true := by
  induction entries generalizing leader with
  | nil =>
    cases found
    refine ⟨fun entry member => absurd member List.not_mem_nil, fun front same => ?_⟩
    cases same
    exact Row.not_winsTie_self (timed' _ rfl)
  | cons entry rest ih =>
    have number := timed entry List.mem_cons_self
    have others := fun other member => timed other (List.mem_cons_of_mem entry member)
    obtain ⟨place', row', next, origin⟩ := prefer_isSome leader entry
    have number' : isNaN row'.moment = false := by
      rcases origin with same | rfl
      · exact timed' _ same
      · exact number
    rw [List.foldl_cons, next] at found
    obtain ⟨later, ahead⟩ := ih others (fun front same => by cases same; exact number') found
    have unbeaten := ahead _ rfl
    have last : isNaN row.moment = false := by
      rcases foldl_prefer found with same | member
      · cases same
        exact number'
      · exact others _ member
    -- Not to win a tie goes on from row to row, up to the one that leads in the end.
    have first := prefer_unbeaten number timed' next
    refine ⟨fun other member => ?_, fun front same => ?_⟩
    · rcases List.mem_cons.1 member with rfl | member
      · exact Row.not_winsTie_trans number number' last first.1 unbeaten
      · exact later other member
    · exact Row.not_winsTie_trans (timed' front same) number' last (first.2 front same) unbeaten

theorem isBest_congr {score : R} (below : le best score = true) (above : le score best = true)
    (row : Row α R) : isBest blend best row = isBest blend score row := by
  unfold isBest
  cases row.openScore blend with
  | some final =>
    dsimp only
    rw [Bool.eq_iff_iff, Scalar.eq, Scalar.eq, Bool.and_eq_true, Bool.and_eq_true]
    exact ⟨fun both =>
        ⟨OrderRules.le_trans _ _ _ both.1 below, OrderRules.le_trans _ _ _ above both.2⟩,
      fun both => ⟨OrderRules.le_trans _ _ _ both.1 above, OrderRules.le_trans _ _ _ below both.2⟩⟩
  | none =>
    rw [Bool.eq_iff_iff]
    exact ⟨OrderRules.bottom _ _ above, OrderRules.bottom _ _ below⟩

/-- A row that wins a round. Every open row has a score, and among the rows that have the best one
no other wins the tie. -/
structure Row.Wins (blend : Blend R) (rows : List (Row α R)) (winner : Row α R) : Prop where
  there : winner ∈ rows
  defined : ∀ row ∈ openRows rows, isNaN (row.final blend) = false
  tops : ∃ leader ∈ openRows rows,
    (∀ row ∈ openRows rows, le (row.final blend) (leader.final blend) = true) ∧
      isBest blend (leader.final blend) winner = true ∧
      ∀ row ∈ rows, isBest blend (leader.final blend) row = true → ¬ row.winsTie winner = true

namespace Row.Wins

variable {winner other : Row α R}

theorem unique (apart : AreApart rows) (wins : winner.Wins blend rows)
    (wins' : other.Wins blend rows) : winner = other := by
  obtain ⟨leader, isOpen, greatest, best, unbeaten⟩ := wins.tops
  obtain ⟨leader', isOpen', greatest', best', unbeaten'⟩ := wins'.tops
  have same (row : Row α R) : isBest blend (leader.final blend) row =
      isBest blend (leader'.final blend) row :=
    isBest_congr (greatest' leader isOpen) (greatest leader' isOpen') row
  refine apart.eq_of_id wins.there wins'.there (Row.id_of_tie (apart.timed _ wins.there)
    (apart.timed _ wins'.there) (unbeaten' winner wins.there ?_) (unbeaten other wins'.there ?_))
  · rwa [← same]
  · rwa [same]

omit [OrderRules R] in
theorem perm (wins : winner.Wins blend rows) (same : others.Perm rows) :
    winner.Wins blend others := by
  have opens : ∀ row, row ∈ openRows others ↔ row ∈ openRows rows := fun row =>
    (same.filter Row.isOpen).mem_iff
  obtain ⟨leader, isOpen, greatest, best, unbeaten⟩ := wins.tops
  exact ⟨same.mem_iff.2 wins.there, fun row member => wins.defined row ((opens row).1 member),
    leader, (opens leader).2 isOpen, fun row member => greatest row ((opens row).1 member), best,
    fun row member => unbeaten row (same.mem_iff.1 member)⟩

theorem subset (wins : winner.Wins blend rows) (isOpen : winner.isOpen = true)
    (sub : others ⊆ rows) (there : winner ∈ others) : winner.Wins blend others := by
  have opens : ∀ row ∈ openRows others, row ∈ openRows rows := fun row member =>
    List.mem_filter.2 ⟨sub (List.mem_filter.1 member).1, (List.mem_filter.1 member).2⟩
  have own := wins.defined winner (List.mem_filter.2 ⟨wins.there, isOpen⟩)
  obtain ⟨leader, isLeader, greatest, best, unbeaten⟩ := wins.tops
  have equal : le (winner.final blend) (leader.final blend) = true ∧
      le (leader.final blend) (winner.final blend) = true := by
    rw [isBest, openScore, if_pos isOpen] at best
    exact Bool.and_eq_true_iff.1 best
  refine ⟨there, fun row member => wins.defined row (opens row member), winner,
    List.mem_filter.2 ⟨there, isOpen⟩, fun row member => ?_, ?_, fun row member tied => ?_⟩
  · exact OrderRules.le_trans _ _ _ (greatest row (opens row member)) equal.2
  · rwa [isBest_congr equal.1 equal.2]
  · exact unbeaten row (sub member) (by rwa [isBest_congr equal.2 equal.1])

end Row.Wins

theorem wins_of_winner (timed : ∀ row ∈ rows, isNaN row.moment = false)
    (scored : bestScore? blend rows = some best) {place : Nat} {winner : Row α R}
    (won : winner? blend best rows = some (place, winner)) : winner.Wins blend rows := by
  obtain ⟨there, hasBest⟩ := winner_spec won
  obtain ⟨defined, ⟨leader, isOpen, rfl⟩, greatest⟩ := bestScore_spec scored
  refine ⟨List.mem_of_getElem? there, defined, leader, isOpen, greatest, hasBest,
    fun row member tied => ?_⟩
  obtain ⟨index, found⟩ := List.getElem?_of_mem member
  have entry : (row, index) ∈ rows.zipIdx.filter fun entry =>
      isBest blend (leader.final blend) entry.1 :=
    List.mem_filter.2 ⟨List.mk_mem_zipIdx_iff_getElem?.2 found, tied⟩
  have timed : ∀ entry ∈ rows.zipIdx.filter fun entry =>
      isBest blend (leader.final blend) entry.1, isNaN entry.1.moment = false := by
    rintro ⟨row, index⟩ member
    exact timed row
      (List.mem_of_getElem? (List.mk_mem_zipIdx_iff_getElem?.1 (List.mem_filter.1 member).1))
  rw [winner?_eq] at won
  exact (foldl_prefer_unbeaten timed (fun front same => by cases same) won).1 _ entry

/-- What a round does: it places the row that wins, and every row goes on by itself. -/
theorem wins_of_round (apart : AreApart rows) {placement : Placement α R}
    (ended : round near blend rows = .ok (placement, after)) :
    ∃ winner : Row α R, winner.Wins blend rows ∧ placement = winner.placed blend ∧
      after = rows.map (·.advance near winner) := by
  obtain ⟨best, place, winner, scored, won, rfl, rfl⟩ := round_ok ended
  exact ⟨winner, wins_of_winner apart.timed scored won, rfl,
    countHits_close apart.once (winner_spec won).1 near⟩

theorem round_of_wins (apart : AreApart rows) {winner : Row α R} (wins : winner.Wins blend rows)
    (near : α → α → Bool) :
    round near blend rows = .ok (winner.placed blend, rows.map (·.advance near winner)) := by
  obtain ⟨leader, isOpen, _⟩ := wins.tops
  obtain ⟨first, after, ended⟩ := round_isOk near OrderRules.le_refl wins.defined
    (List.ne_nil_of_mem isOpen)
  obtain ⟨other, wins', rfl, rfl⟩ := wins_of_round apart ended
  rw [ended, wins.unique apart wins']

omit [OrderRules R] in
theorem round_error {cause : Breakdown} (ended : round near blend rows = .error cause) :
    cause = .unordered := by
  unfold round at ended
  split at ended
  · cases ended
    rfl
  · cases ended

theorem rounds_of_perm (apart : AreApart rows) (same : others.Perm rows) (near : α → α → Bool)
    (blend : Blend R) (count : Nat) :
    rounds near blend count others = rounds near blend count rows := by
  induction count generalizing rows others with
  | zero => rfl
  | succ count ih =>
    cases ended : round near blend rows with
    | ok first =>
      obtain ⟨placement, after⟩ := first
      obtain ⟨winner, wins, rfl, rfl⟩ := wins_of_round apart ended
      rw [rounds_of_round ended,
        rounds_of_round (round_of_wins (apart.perm same) (wins.perm same) near),
        ih (apart.advance near winner) (same.map _)]
    | error cause =>
      cases ended' : round near blend others with
      | ok first =>
        obtain ⟨winner, wins, _⟩ := wins_of_round (apart.perm same) ended'
        rw [round_of_wins apart (wins.perm same.symm) near] at ended
        cases ended
      | error cause' =>
        rw [rounds_succ, rounds_succ, ended, ended', round_error ended, round_error ended']

end

end Greedy

section

variable {C R : Type} [Scalar R] [OrderRules R] {weights : Weights R} {threshold : R}
variable {candidates others : List (Candidate C R)}

theorem apart_candidates (once : (candidates.map (·.post.id)).Nodup) :
    Greedy.AreApart (candidates.map fun c => c.row weights c) where
  once := by
    rw [List.map_map]
    exact once
  timed row member := by
    obtain ⟨c, _, rfl⟩ := List.mem_map.1 member
    exact OrderRules.ratio _ _ (by decide)

theorem rank_of_perm [Component C R] (once : (candidates.map (·.post.id)).Nodup)
    (same : others.Perm candidates) :
    rank weights threshold others = rank weights threshold candidates := by
  rw [rank_eq_rankBy, rank_eq_rankBy, rankBy, rankBy, Greedy.order, Greedy.order, List.length_map,
    List.length_map, same.length_eq,
    Greedy.rounds_of_perm (apart_candidates once) (same.map fun c => c.row weights c)]

end

end PersonalFeed
