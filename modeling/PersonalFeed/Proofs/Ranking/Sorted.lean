import PersonalFeed.Feed.Hydration
import PersonalFeed.Proofs.Number.Exact

/-!
The greedy ranking is sorted by the scores it reports. A row only loses by waiting: the rows near it
that are placed meanwhile lower its diversity. So a row that leads all others at its turn also leads
what each of them has come to at its own turn, in ties as well.
-/

set_option autoImplicit false

namespace PersonalFeed

namespace Greedy

variable {α : Type} {near : α → α → Bool} {blend : Blend ℚ}

structure Row.Fades (row : Row α ℚ) : Prop where
  novelty : 0 ≤ row.novelty
  seen : 0 ≤ row.seen

structure Blend.IsProper (blend : Blend ℚ) : Prop where
  diversity : 0 ≤ blend.diversity
  total : 0 < blend.total

theorem Row.final_antitone (proper : blend.IsProper) {row : Row α ℚ} (fades : row.Fades)
    {placed placed' : List α} (more : placed.Sublist placed') :
    (row.after near placed').final blend ≤ (row.after near placed).final blend := by
  have hits : (row.after near placed).hits ≤ (row.after near placed').hits :=
    Nat.add_le_add_left more.countP_le row.hits
  have diverse : (row.after near placed').diversity ≤ (row.after near placed).diversity := by
    simp only [Row.diversity, Exact.one_eq, Exact.ofInt_eq, Exact.ratio_eq]
    have counted : ((row.after near placed).hits : ℚ) ≤ (row.after near placed').hits :=
      Nat.cast_le.2 hits
    exact div_le_div_of_nonneg_left fades.novelty (by positivity) (by push_cast; linarith)
  have blended := mul_le_mul_of_nonneg_right diverse proper.diversity
  have divided := div_le_div_of_nonneg_right (add_le_add_right blended row.base) proper.total.le
  exact mul_le_mul_of_nonneg_right divided fades.seen

theorem Row.leads_of_le {a b c : Row α ℚ} (leads : a.Leads blend b)
    (less : c.final blend ≤ b.final blend) (moment : c.moment = b.moment) (id : c.id = b.id) :
    a.Leads blend c := by
  rcases lt_or_eq_of_le less with below | same
  · rcases leads with above | ⟨level, _⟩
    · exact .inl (below.trans above)
    · exact .inl (level ▸ below)
  · rcases leads with above | ⟨level, loses⟩
    · exact .inl (same ▸ above)
    · refine .inr ⟨same.trans level, ?_⟩
      rw [Row.winsTie_iff, moment, id, ← Row.winsTie_iff]
      exact loses

/-- Each row, as it is at its turn, leads every later one as that is at its own. -/
theorem leads_of_ledThroughout (proper : blend.IsProper) {order : List (Row α ℚ)}
    (led : LedThroughout near blend order) (fades : ∀ row ∈ order, row.Fades) :
    (order.mapIdx fun k row => row.after near ((order.take k).map Row.item)).Pairwise
      (Row.Leads blend) := by
  rw [List.pairwise_iff_getElem]
  intro i j first second earlier
  rw [List.length_mapIdx] at first second
  rw [List.getElem_mapIdx, List.getElem_mapIdx]
  -- At the turn of the first the second is waiting and led by it, with the hits it has by then. It
  -- has no fewer at its own turn, so it scores no more.
  have waiting : order[j] ∈ order.drop (i + 1) :=
    List.mem_drop_iff_getElem.2 ⟨j - (i + 1), by omega, by congr 1; omega⟩
  have ahead := led i order[i] (order.drop (i + 1)) (List.drop_eq_getElem_cons first) _ waiting
  refine Row.leads_of_le ahead ?_ rfl rfl
  have placed := (List.take_prefix_take_left (l := order) (Nat.le_of_lt earlier)).sublist
  exact Row.final_antitone proper (fades _ (List.getElem_mem second)) (placed.map Row.item)

end Greedy

section

variable {C : Type}

namespace Scored

def ofRow (blend : Greedy.Blend ℚ) (row : Greedy.Row (Candidate C ℚ) ℚ) : Scored C ℚ :=
  row.item.scored row.diversity (row.final blend)

theorem precedes_of_leads {blend : Greedy.Blend ℚ} {a b : Greedy.Row (Candidate C ℚ) ℚ}
    (leads : a.Leads blend b)
    (moments : a.moment = a.item.post.createdAt.seconds ∧ b.moment = b.item.post.createdAt.seconds)
    (ids : a.id = a.item.post.id ∧ b.id = b.item.post.id) :
    (ofRow blend b).precedes (ofRow blend a) = false := by
  rw [Bool.eq_false_iff]
  intro ahead
  unfold precedes at ahead
  rcases leads with less | ⟨same, loses⟩
  · rw [if_neg (by rw [Exact.eq_iff]; exact less.ne), Exact.lt_iff] at ahead
    exact absurd ahead (not_lt.2 less.le)
  · rw [if_pos (by rw [Exact.eq_iff]; exact same)] at ahead
    rw [Greedy.Row.winsTie_iff, not_or, moments.1, moments.2, ids.1, ids.2] at loses
    dsimp only at ahead
    split at ahead
    · rename_i together
      exact loses.2 ⟨((Exact.eq_iff _ _).1 together), of_decide_eq_true ahead⟩
    · exact loses.1 ((Exact.lt_iff _ _).1 ahead)

theorem ordered_of_pairwise {ranked : List (Scored C ℚ)}
    (sorted : ranked.Pairwise fun a b => b.precedes a = false) : ordered ranked = ranked := by
  have strays : (ranked.any fun s => Scalar.isNaN s.final) = false :=
    List.any_eq_false.2 fun s _ => by simp
  rw [ordered, Sorting.sortStrays, strays, if_neg Bool.false_ne_true]
  exact List.mergeSort_of_pairwise (sorted.imp fun behind => by rw [behind]; rfl)

end Scored

theorem Weights.blend_isProper {weights : Weights ℚ} (proper : weights.IsProper) :
    weights.blend.IsProper where
  diversity := (Exact.isNegative_eq_false _).1 (proper.up .diversity)
  total := (Exact.zero_eq ▸ (Exact.le_eq_false _ _).1 proper.total : (0 : ℚ) < weights.total)

variable [Component C ℚ]

/-- A ranking comes from rows of the candidates of which each leads all later ones. -/
theorem rank_eq_rows {weights : Weights ℚ} (proper : weights.IsProper) (threshold : ℚ)
    {candidates : List (Candidate C ℚ)} (novelty : ∀ c ∈ candidates, 0 ≤ c.novelty)
    (seen : ∀ c ∈ candidates, 0 ≤ c.seen) :
    ∃ rows : List (Greedy.Row (Candidate C ℚ) ℚ),
      rank weights threshold candidates = .ok (rows.map (Scored.ofRow weights.blend)) ∧
      rows.Pairwise (Greedy.Row.Leads weights.blend) ∧
      ∀ row ∈ rows, row.moment = row.item.post.createdAt.seconds ∧ row.id = row.item.post.id := by
  obtain ⟨order, shuffled, led, placed⟩ := Greedy.rounds_exact
    (Candidate.isNear threshold) weights.blend _ (candidates.map fun c => c.row weights c) rfl
  rw [openRows_candidates] at shuffled placed
  -- The rows are in their order but as they were at first; each gets the hits of its turn below.
  have made : ∀ row ∈ order, ∃ c ∈ candidates, row = c.row weights c := by
    intro row member
    obtain ⟨c, inside, same⟩ := List.mem_map.1 (shuffled.mem_iff.1 member)
    exact ⟨c, inside, same.symm⟩
  refine ⟨order.mapIdx fun k row => row.after (Candidate.isNear threshold)
    ((order.take k).map Greedy.Row.item), ?_, ?_, ?_⟩
  · rw [rank_eq_rankBy, rankBy, Greedy.order, placed]
    refine congrArg Except.ok (List.ext_getElem? fun k => ?_)
    simp only [List.getElem?_map, List.getElem?_mapIdx, Option.map_map]
    rfl
  · refine Greedy.leads_of_ledThroughout (Weights.blend_isProper proper) led fun row member => ?_
    obtain ⟨c, inside, rfl⟩ := made row member
    exact ⟨novelty c inside, seen c inside⟩
  · intro row member
    obtain ⟨k, inside, rfl⟩ := List.mem_mapIdx.1 member
    obtain ⟨c, _, same⟩ := made order[k] (List.getElem_mem inside)
    rw [same]
    exact ⟨rfl, rfl⟩

/-- The scores that a ranking reports do not increase, sorting it by them changes nothing, and
neither do they increase as they are shown, rounded to six places. -/
theorem rank_isSorted {given : Signal → Json ℚ} {weights : Weights ℚ}
    (accepted : Weights.check given = .ok weights) (threshold : ℚ)
    {candidates : List (Candidate C ℚ)} (novelty : ∀ c ∈ candidates, 0 ≤ c.novelty)
    (seen : ∀ c ∈ candidates, 0 ≤ c.seen) (authors : List Author) (sign : Option MediaSigner) :
    ∃ ranked, rank weights threshold candidates = .ok ranked ∧
      ranked.Pairwise (fun a b => b.final ≤ a.final) ∧
      Scored.ordered ranked = ranked ∧
      (hydrate authors sign ranked).Pairwise fun a b => b.scores.final ≤ a.scores.final := by
  obtain ⟨rows, ranked, leads, named⟩ :=
    rank_eq_rows (Weights.isProper_of_check accepted) threshold novelty seen
  have finals : (rows.map (Scored.ofRow weights.blend)).Pairwise fun a b => b.final ≤ a.final := by
    refine List.pairwise_map.2 (leads.imp fun ahead => ?_)
    rcases ahead with less | ⟨same, _⟩
    · exact less.le
    · exact same.le
  refine ⟨_, ranked, finals, Scored.ordered_of_pairwise ?_, ?_⟩
  · refine List.pairwise_map.2 (leads.imp_of_mem fun first second ahead => ?_)
    exact Scored.precedes_of_leads ahead ⟨(named _ first).1, (named _ second).1⟩
      ⟨(named _ first).2, (named _ second).2⟩
  · exact List.pairwise_map.2 (finals.imp fun below => Exact.roundPlaces_mono 6 below)

end

/-- The scores of two posts of the same direction, of which the second one loses by the first. -/
theorem rank_isSorted_of_twins :
    ∃ ranked, rank .default (9 / 10) [plainCandidate "a", plainCandidate "b"] = .ok ranked ∧
      ranked.Pairwise (fun a b => b.final ≤ a.final) ∧
      Scored.ordered ranked = ranked ∧
      (hydrate [] none ranked).Pairwise fun a b => b.scores.final ≤ a.scores.final := by
  refine rank_isSorted (Weights.check_reals (fun _ => rfl) Weights.default_isProper) (9 / 10)
    (fun c member => ?_) (fun c member => ?_) [] none
  · rcases List.mem_pair.1 member with rfl | rfl <;> exact zero_le_one
  · rcases List.mem_pair.1 member with rfl | rfl <;> exact zero_le_one

end PersonalFeed
