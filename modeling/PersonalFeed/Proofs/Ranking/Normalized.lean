import PersonalFeed.Proofs.Ranking.Rounds

/-!
Vectors that are normalised beforehand. Rounds look at items only through their nearness, so the
ranking by directions is the ranking by cosine similarity.
-/

set_option autoImplicit false

namespace PersonalFeed

namespace Greedy

variable {α β R : Type}

def Row.withItem (f : α → β) (row : Row α R) : Row β R where
  item := f row.item
  base := row.base
  novelty := row.novelty
  seen := row.seen
  moment := row.moment
  id := row.id
  hits := row.hits
  isOpen := row.isOpen

def Placement.withItem (f : α → β) (placement : Placement α R) : Placement β R :=
  ⟨f placement.item, placement.diversity, placement.final⟩

variable (f : α → β)

theorem close_withItem (rows : List (Row α R)) (place : Nat) :
    close (rows.map (Row.withItem f)) place = (close rows place).map (Row.withItem f) := by
  induction rows generalizing place with
  | nil => rw [close, close, List.map_nil, List.modify_nil, List.modify_nil, List.map_nil]
  | cons row rest ih =>
    cases place with
    | zero => rfl
    | succ place => exact congrArg (row.withItem f :: ·) (ih place)

theorem countHits_withItem {near : α → α → Bool} {near' : β → β → Bool} {placed : α}
    {rows : List (Row α R)}
    (same : ∀ row ∈ rows, near' (f placed) (f row.item) = near placed row.item) :
    countHits near' (f placed) (rows.map (Row.withItem f)) =
      (countHits near placed rows).map (Row.withItem f) := by
  rw [countHits, countHits, List.map_map, List.map_map]
  refine List.map_congr_left fun row member => ?_
  simp only [Function.comp_apply, Row.withItem, same row member]
  split <;> rfl

variable [Scalar R] {blend : Blend R}

theorem bestScore_withItem (rows : List (Row α R)) :
    bestScore? blend (rows.map (Row.withItem f)) = bestScore? blend rows := by
  rw [bestScore?, List.filterMap_map]
  rfl

theorem foldl_prefer_withItem (entries : List (Row α R × Nat)) (leader : Option (Nat × Row α R)) :
    (entries.map fun entry => (entry.1.withItem f, entry.2)).foldl prefer
        (leader.map fun front => (front.1, front.2.withItem f)) =
      (entries.foldl prefer leader).map fun front => (front.1, front.2.withItem f) := by
  induction entries generalizing leader with
  | nil => rfl
  | cons entry rest ih =>
    rw [List.map_cons, List.foldl_cons, List.foldl_cons, ← ih]
    congr 1
    cases leader with
    | none => rfl
    | some front =>
      simp only [prefer, Option.map_some]
      have same : (entry.1.withItem f).winsTie (front.2.withItem f) = entry.1.winsTie front.2 := rfl
      rw [same]
      split <;> rfl

theorem winner_withItem (best : R) (rows : List (Row α R)) :
    winner? blend best (rows.map (Row.withItem f)) =
      (winner? blend best rows).map fun front => (front.1, front.2.withItem f) := by
  rw [winner?_eq, winner?_eq, ← foldl_prefer_withItem, List.zipIdx_map, List.filter_map]
  rfl

section

variable {near : α → α → Bool} {near' : β → β → Bool} {rows : List (Row α R)}

theorem round_withItem
    (same : ∀ a ∈ rows.map Row.item, ∀ b ∈ rows.map Row.item, near' (f a) (f b) = near a b) :
    round near' blend (rows.map (Row.withItem f)) =
      (round near blend rows).map fun first =>
        (first.1.withItem f, first.2.map (Row.withItem f)) := by
  rw [round, round, bestScore_withItem]
  cases scored : bestScore? blend rows with
  | none => rfl
  | some best =>
    rw [Option.bind_some, Option.bind_some, winner_withItem]
    cases won : winner? blend best rows with
    | none => rfl
    | some front =>
      obtain ⟨place, row⟩ := front
      -- The nearness of items is only compared among the rows themselves.
      have placed : row.item ∈ rows.map Row.item :=
        List.mem_map_of_mem (List.mem_of_getElem? (winner_spec won).1)
      have after : countHits near' (f row.item) (close (rows.map (Row.withItem f)) place) =
          (countHits near row.item (close rows place)).map (Row.withItem f) := by
        rw [close_withItem]
        refine countHits_withItem f fun other member => same _ placed _ ?_
        rw [← items_close rows place]
        exact List.mem_map_of_mem member
      exact congrArg (fun rows => Except.ok (Placement.withItem f
        ⟨row.item, row.diversity, row.final blend⟩, rows)) after

theorem rounds_withItem (count : Nat)
    (same : ∀ a ∈ rows.map Row.item, ∀ b ∈ rows.map Row.item, near' (f a) (f b) = near a b) :
    rounds near' blend count (rows.map (Row.withItem f)) =
      (rounds near blend count rows).map (List.map (Placement.withItem f)) := by
  induction count generalizing rows with
  | zero => rfl
  | succ count ih =>
    rw [rounds_succ, rounds_succ, round_withItem f same]
    cases one : round near blend rows with
    | error cause => rfl
    | ok first =>
      obtain ⟨placement, after⟩ := first
      obtain ⟨best, place, row, _, _, _, rfl⟩ := round_ok one
      have items : (countHits near row.item (close rows place)).map Row.item =
          rows.map Row.item := by
        rw [items_countHits, items_close]
      have later := @ih (countHits near row.item (close rows place)) (by rwa [items])
      change (rounds near' blend count (List.map (Row.withItem f) _)).map _ = _
      rw [later]
      cases h : rounds near blend count (countHits near row.item (close rows place)) <;>
        simp only [Except.bind, h, Except.map, List.map_cons]

end

end Greedy

section

variable {C R : Type} [Scalar R] [Component C R]

omit [Scalar R] in
/-- Two candidates whose vectors are normalised beforehand are near each other when the candidates
are. -/
theorem isNearDirected_normalize (threshold : R) (a b : Candidate C R) :
    isNearDirected (Component.narrow threshold) (a, a.vector.map Embedding.normalize)
      (b, b.vector.map Embedding.normalize) = Candidate.isNear threshold a b := by
  unfold isNearDirected Candidate.isNear
  cases a.vector <;> cases b.vector <;> rfl

theorem rank_eq_rankBy (weights : Weights R) (threshold : R) (candidates : List (Candidate C R)) :
    rank weights threshold candidates =
      rankBy (Candidate.isNear threshold) weights candidates := by
  -- Each candidate carries its direction along, and the rounds do not depend on what is carried.
  let directed (c : Candidate C R) := (c, c.vector.map Embedding.normalize)
  have rows : ((candidates.map directed).map fun d => d.1.row weights d) =
      (candidates.map fun c => c.row weights c).map (Greedy.Row.withItem directed) := by
    rw [List.map_map, List.map_map]
    rfl
  have ordered : Greedy.order (isNearDirected (Component.narrow threshold)) weights.blend
      ((candidates.map directed).map fun d => d.1.row weights d) =
        (Greedy.order (Candidate.isNear threshold) weights.blend
          (candidates.map fun c => c.row weights c)).map
            (List.map (Greedy.Placement.withItem directed)) := by
    rw [rows, Greedy.order, Greedy.order, List.length_map, List.length_map]
    exact Greedy.rounds_withItem directed candidates.length
      fun a _ b _ => isNearDirected_normalize threshold a b
  change (Greedy.order _ _ ((candidates.map directed).map _) >>= fun placements =>
    pure (placements.map _)) = _
  rw [ordered, rankBy]
  cases Greedy.order (Candidate.isNear threshold) weights.blend
    (candidates.map fun c => c.row weights c) with
  | error cause => rfl
  | ok placements =>
    change Except.ok ((placements.map _).map _) = Except.ok _
    rw [List.map_map]
    rfl

end

end PersonalFeed
