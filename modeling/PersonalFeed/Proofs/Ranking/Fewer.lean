import PersonalFeed.Proofs.Ranking.Contest
import PersonalFeed.Proofs.Ranking.Exact
import PersonalFeed.Proofs.Ranking.Specification

/-!
The ranking of fewer candidates. A row that wins among some rows wins among fewer of them, so
leaving out rows that have no place yet changes none of the places taken so far.
-/

set_option autoImplicit false

namespace PersonalFeed

open Scalar

namespace Greedy

variable {α R : Type} [Scalar R] {near : α → α → Bool} {blend : Blend R}
variable {rows : List (Row α R)} {placements : List (Placement α R)} {keep : α → Bool}

theorem length_of_rounds {count : Nat} (ended : rounds near blend count rows = .ok placements) :
    placements.length = count := by
  induction count generalizing rows placements with
  | zero =>
    cases ended
    rfl
  | succ count ih =>
    obtain ⟨first, after, rest, _, later, rfl⟩ := rounds_succ_ok ended
    exact congrArg (· + 1) (ih later)

theorem rounds_take {count more : Nat}
    (ended : rounds near blend (count + more) rows = .ok placements) :
    rounds near blend count rows = .ok (placements.take count) := by
  induction count generalizing rows placements with
  | zero => rfl
  | succ count ih =>
    rw [Nat.add_right_comm] at ended
    obtain ⟨first, after, rest, one, later, rfl⟩ := rounds_succ_ok ended
    rw [rounds_of_round one, ih later]
    rfl

variable [OrderRules R]

omit [OrderRules R] in
theorem Row.Wins.isOpen {winner : Row α R} (wins : winner.Wins blend rows)
    (up : ∀ row ∈ rows, row.Always blend fun score => isBottom score = false) :
    winner.isOpen = true := by
  obtain ⟨leader, isOpen, _, best, _⟩ := wins.tops
  have notBottom := up leader (mem_of_openRows isOpen).1 leader.hits
  cases closed : winner.isOpen with
  | true => rfl
  | false =>
    rw [isBest, openScore, closed, if_neg Bool.false_ne_true] at best
    exact absurd best (Bool.eq_false_iff.1 notBottom)

/-- Rounds that place only rows of one kind do the same when there are no others. -/
theorem rounds_filter (apart : AreApart rows)
    (up : ∀ row ∈ rows, row.Always blend fun score => isBottom score = false) {count : Nat}
    (ended : rounds near blend count rows = .ok placements)
    (kept : ∀ p ∈ placements, keep p.item = true) :
    rounds near blend count (rows.filter fun row => keep row.item) = .ok placements := by
  induction count generalizing rows placements with
  | zero =>
    cases ended
    rfl
  | succ count ih =>
    obtain ⟨first, after, rest, one, later, rfl⟩ := rounds_succ_ok ended
    have upLater := (round_takes up one).2 _ up
    obtain ⟨winner, wins, rfl, rfl⟩ := wins_of_round apart one
    -- The winner is still there and has fewer to beat.
    have stays : winner.Wins blend (rows.filter fun row => keep row.item) :=
      wins.subset (wins.isOpen up) List.filter_sublist.subset
        (List.mem_filter.2 ⟨wins.there, kept _ List.mem_cons_self⟩)
    have others : (rows.filter fun row => keep row.item).map (·.advance near winner) =
        (rows.map (·.advance near winner)).filter fun row => keep row.item := by
      rw [List.filter_map]
      exact congrArg _ (List.filter_congr fun row _ => by
        rw [Function.comp_apply, Row.advance_item])
    rw [rounds_of_round (round_of_wins (apart.sublist List.filter_sublist) stays near), others,
      ih (apart.advance near winner) upLater later fun p member =>
        kept p (List.mem_cons_of_mem _ member)]
    rfl

section

variable (keep) (apart : AreApart rows)
variable (up : ∀ row ∈ rows, row.Always blend fun score => isBottom score = false)
variable (ended : order near blend rows = .ok placements) {k : Nat}
variable (kept : ∀ p ∈ placements.take k, keep p.item = true)

include apart up ended kept in
/-- The first placements take only as many rounds as they are, also among fewer rows. -/
theorem rounds_first :
    rounds near blend (placements.take k).length (rows.filter fun row => keep row.item) =
      .ok (placements.take k) := by
  refine rounds_filter apart up ?_ kept
  have size := length_of_rounds ended
  have enough : (placements.take k).length + (rows.length - (placements.take k).length) =
      rows.length := by
    rw [List.length_take]
    omega
  rw [order, ← enough] at ended
  rw [rounds_take ended, List.length_take, ← List.take_eq_take_min]

variable (fresh : openRows rows = rows)

omit [OrderRules R] in
include fresh up ended in
theorem length_kept : (rows.filter fun row => keep row.item).length =
    (placements.filter fun p => keep p.item).length := by
  have placed := rounds_perm (congrArg List.length fresh) up ended
  rw [fresh] at placed
  have kept := (placed.filter keep).length_eq
  rw [List.filter_map, List.filter_map, List.length_map, List.length_map] at kept
  exact kept.symm

include apart up ended kept fresh

theorem order_first (rest : ∀ p ∈ placements.drop k, keep p.item = false) :
    order near blend (rows.filter fun row => keep row.item) = .ok (placements.take k) := by
  have size : (rows.filter fun row => keep row.item).length = (placements.take k).length := by
    rw [length_kept keep up ended fresh]
    conv_lhs => rw [← List.take_append_drop k placements]
    rw [List.filter_append, List.filter_eq_self.2 kept,
      List.filter_eq_nil_iff.2 fun p member => Bool.eq_false_iff.1 (rest p member),
      List.append_nil]
  rw [order, size, rounds_first keep apart up ended kept]

/-- Without some of the rows behind the first ones, those are placed as before. -/
theorem take_order {others : List (Placement α R)}
    (ended' : order near blend (rows.filter fun row => keep row.item) = .ok others) :
    others.take k = placements.take k := by
  have first := rounds_first keep apart up ended kept
  have size := length_of_rounds ended
  have size' := length_of_rounds ended'
  have fewer : (rows.filter fun row => keep row.item).length ≤ rows.length :=
    List.length_filter_le _ _
  have enough : (placements.take k).length ≤ (rows.filter fun row => keep row.item).length := by
    rw [length_kept keep up ended fresh, ← List.filter_eq_self.2 kept]
    exact ((List.take_sublist k placements).filter _).length_le
  rw [order, ← Nat.add_sub_of_le enough] at ended'
  rw [rounds_take ended'] at first
  have same := Except.ok.inj first
  rw [List.length_take] at same enough
  have bound : min k others.length = min k placements.length := by omega
  calc others.take k = others.take (min k others.length) := List.take_eq_take_min
    _ = placements.take k := by rw [bound, same]

end

end Greedy

section

variable {C R : Type} [Scalar R] [OrderRules R] [Component C R]
variable {weights : Weights R} {threshold : R}
variable {candidates : List (Candidate C R)}

omit [OrderRules R] in
/-- The ranking of some of the candidates is that of their rows among all rows. -/
theorem rank_filter (kept : Candidate C R → Bool) :
    rank weights threshold (candidates.filter kept) =
      (Greedy.order (Candidate.isNear threshold) weights.blend
        ((candidates.map fun c => c.row weights c).filter fun row => kept row.item)).map
          (List.map fun p => p.item.scored p.diversity p.final) := by
  rw [rank_eq_rankBy, rankBy, List.filter_map]
  change (_ >>= _) = Except.map _ (Greedy.order _ _ ((candidates.filter kept).map _))
  cases Greedy.order (Candidate.isNear threshold) weights.blend
    ((candidates.filter kept).map fun c => c.row weights c) <;> rfl

section

variable {placements : List (Greedy.Placement (Candidate C R) R)} {k : Nat}

omit [OrderRules R] in
theorem candidate_of_order (ordered : Greedy.order (Candidate.isNear threshold) weights.blend
      (candidates.map fun c => c.row weights c) = .ok placements)
    {placement : Greedy.Placement (Candidate C R) R} (placed : placement ∈ placements) :
    placement.item ∈ candidates := by
  have inside := Greedy.item_of_rounds ordered placement placed
  rw [List.map_map] at inside
  obtain ⟨c, candidate, same⟩ := List.mem_map.1 inside
  exact same ▸ candidate

omit [Scalar R] [OrderRules R] [Component C R] in
theorem ids_of_first : ((placements.map fun p => p.item.scored p.diversity p.final).take k).map
    (·.post.id) = (placements.take k).map (·.item.post.id) := by
  rw [← List.map_take, List.map_map]
  rfl

omit [Scalar R] [OrderRules R] [Component C R] in
theorem id_behind_first (distinct : (placements.map (·.item.post.id)).Nodup)
    {placement : Greedy.Placement (Candidate C R) R} (behind : placement ∈ placements.drop k) :
    placement.item.post.id ∉ (placements.take k).map (·.item.post.id) := by
  intro again
  rw [List.map_take] at again
  refine List.disjoint_take_drop distinct (Nat.le_refl k) again ?_
  rw [← List.map_drop]
  exact List.mem_map_of_mem behind

end

/-- What comes later in a ranking has no influence on the first places: whichever of the other
candidates are left out, the first ones are the same with the same scores, and so they are alone. No
score may be infinitely small, as that is how places already taken are marked; ranking ends if all
scores are numbers. -/
theorem rank_ignores_later (once : (candidates.map (·.post.id)).Nodup)
    (up : ∀ c ∈ candidates, ∀ hits, isBottom (c.finalWith weights hits) = false) :
    ((∀ c ∈ candidates, ∀ hits, isNaN (c.finalWith weights hits) = false) →
      ∃ ranked, rank weights threshold candidates = .ok ranked) ∧
    ∀ ranked, rank weights threshold candidates = .ok ranked → ∀ k,
      rank weights threshold (candidates.filter fun c =>
        ((ranked.take k).map (·.post.id)).contains c.post.id) = .ok (ranked.take k) ∧
      ∀ kept : Candidate C R → Bool,
        (∀ c ∈ candidates, c.post.id ∈ (ranked.take k).map (·.post.id) → kept c = true) →
        (∀ others, rank weights threshold (candidates.filter kept) = .ok others →
          others.take k = ranked.take k) ∧
        ((∀ c ∈ candidates, kept c = true → ∀ hits, isNaN (c.finalWith weights hits) = false) →
          ∃ others, rank weights threshold (candidates.filter kept) = .ok others) := by
  refine ⟨rank_isOk OrderRules.le_refl up, fun ranked ended k => ?_⟩
  have distinct := nodup_of_rank once up ended
  rw [rank_eq_rankBy] at ended
  obtain ⟨placements, ordered, same⟩ := ok_of_bind ended
  cases same
  rw [List.map_map] at distinct
  rw [ids_of_first]
  have apart : Greedy.AreApart (candidates.map fun c => c.row weights c) := apart_candidates once
  have always := always_candidates (P := fun score => isBottom score = false) up
  -- Candidates of the first places are told by their ids, which are distinct.
  have named {p : Greedy.Placement (Candidate C R) R} (first : p ∈ placements.take k) :
      p.item.post.id ∈ (placements.take k).map (·.item.post.id) := List.mem_map_of_mem first
  constructor
  · have rest : ∀ p ∈ placements.drop k,
        ((placements.take k).map (·.item.post.id)).contains p.item.post.id = false :=
      fun p behind => Bool.eq_false_iff.2 fun again =>
        id_behind_first distinct behind (List.contains_iff_mem.1 again)
    rw [rank_filter, Greedy.order_first
      (fun c => ((placements.take k).map (·.item.post.id)).contains c.post.id) apart always ordered
      (fun p first => List.contains_iff_mem.2 (named first)) openRows_candidates rest]
    exact congrArg Except.ok List.map_take
  · intro kept keeps
    refine ⟨fun others ended => ?_, fun defined => ?_⟩
    · rw [rank_filter kept] at ended
      obtain ⟨placements', ordered', rfl⟩ := ok_of_map ended
      have stays : ∀ p ∈ placements.take k, kept p.item = true := fun p first =>
        keeps _ (candidate_of_order ordered (List.mem_of_mem_take first)) (named first)
      rw [← List.map_take, ← List.map_take,
        Greedy.take_order kept apart always ordered stays openRows_candidates ordered']
    · refine rank_isOk OrderRules.le_refl (fun c member => ?_) fun c member => ?_
      · exact up c (List.mem_filter.1 member).1
      · exact defined c (List.mem_filter.1 member).1 (List.mem_filter.1 member).2

end

theorem rank_ignores_later_of_twins :
    ∃ ranked, rank .default (9 / 10) [plainCandidate "a", plainCandidate "b"] = .ok ranked ∧
      rank .default (9 / 10) ([plainCandidate "a", plainCandidate "b"].filter fun c =>
        ((ranked.take 1).map (·.post.id)).contains c.post.id) = .ok (ranked.take 1) := by
  have once : ([plainCandidate "a", plainCandidate "b"].map (·.post.id)).Nodup := by decide
  have up : ∀ c ∈ [plainCandidate "a", plainCandidate "b"], ∀ hits,
      isBottom (c.finalWith .default hits) = false := fun _ _ _ => rfl
  obtain ⟨ranked, ended⟩ : ∃ ranked,
      rank .default (9 / 10) [plainCandidate "a", plainCandidate "b"] = .ok ranked :=
    (rank_ignores_later once up).1 fun _ _ _ => rfl
  exact ⟨ranked, ended, ((rank_ignores_later once up).2 ranked ended 1).1⟩

end PersonalFeed
