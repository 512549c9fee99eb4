import PersonalFeed.Proofs.Ranking.Sorted

/-!
A candidate that gets better. Two rankings, one with the candidate as it was and one with the better
one, go side by side: as long as the better one is not placed, the same row wins in both, as it
leads the better row and so the old one. The old row has no place before that either.
-/

set_option autoImplicit false

namespace PersonalFeed

namespace Greedy

variable {α : Type}

namespace Row

variable {R : Type}

/-- A row, or the better one in its place if that has the same id. Its state is that of the row. -/
def raised (better row : Row α R) : Row α R :=
  if row.id = better.id then
    { better with moment := row.moment, hits := row.hits, isOpen := row.isOpen }
  else row

variable {better row : Row α R}

theorem raised_of_ne (other : row.id ≠ better.id) : better.raised row = row := if_neg other

@[simp] theorem raised_id : (better.raised row).id = row.id := by
  unfold raised
  split
  · exact Eq.symm ‹_›
  · rfl

@[simp] theorem raised_moment : (better.raised row).moment = row.moment := by
  unfold raised
  split <;> rfl

@[simp] theorem raised_isOpen : (better.raised row).isOpen = row.isOpen := by
  unfold raised
  split <;> rfl

theorem advance_isOpen {near : α → α → Bool} {winner : Row α R} (other : row.id ≠ winner.id) :
    (row.advance near winner).isOpen = row.isOpen := by
  rw [advance, if_neg other]
  split <;> rfl

theorem advance_final [Scalar R] (near : α → α → Bool) (blend : Blend R) (row winner : Row α R)
    (hits : Nat) : { row.advance near winner with hits := hits }.final blend =
      { row with hits := hits }.final blend := by
  unfold advance
  dsimp only
  split <;> split <;> rfl

end Row

/-- A row that is better than the one with its id: near the same others, and with a higher score
whatever was placed before. -/
structure Raises (near : α → α → Bool) (blend : Blend ℚ) (rows : List (Row α ℚ))
    (better : Row α ℚ) : Prop where
  near : ∀ row ∈ rows, row.id = better.id → ∀ placed, near placed better.item = near placed row.item
  higher : ∀ row ∈ rows, row.id = better.id → ∀ hits,
    { row with hits := hits }.final blend ≤ { better with hits := hits }.final blend

variable {near : α → α → Bool} {blend : Blend ℚ} {rows : List (Row α ℚ)} {better winner : Row α ℚ}

namespace Raises

theorem final_le (raises : Raises near blend rows better) {row : Row α ℚ} (there : row ∈ rows) :
    row.final blend ≤ (better.raised row).final blend := by
  unfold Row.raised
  split
  · exact raises.higher row there ‹_› row.hits
  · exact le_refl _

theorem advance_raised (raises : Raises near blend rows better) (winner : Row α ℚ) :
    (rows.map better.raised).map (·.advance near winner) =
      (rows.map (·.advance near winner)).map better.raised := by
  rw [List.map_map, List.map_map]
  refine List.map_congr_left fun row member => ?_
  by_cases named : row.id = better.id
  · have same := raises.near row member named winner.item
    by_cases closes : row.id = winner.id
    · simp [Row.advance, Row.raised, named, named ▸ closes]
    · cases isOpen : row.isOpen <;> cases close : near winner.item row.item <;>
        simp [Row.advance, Row.raised, named, named ▸ closes, isOpen, same, close]
  · have other : (row.advance near winner).id ≠ better.id := by simpa using named
    rw [Function.comp_apply, Function.comp_apply, Row.raised_of_ne named, Row.raised_of_ne other]

theorem advance (raises : Raises near blend rows better) (winner : Row α ℚ) :
    Raises near blend (rows.map (·.advance near winner)) better where
  near row member named placed := by
    obtain ⟨before, inside, rfl⟩ := List.mem_map.1 member
    rw [Row.advance_item]
    exact raises.near before inside (by simpa using named) placed
  higher row member named hits := by
    obtain ⟨before, inside, rfl⟩ := List.mem_map.1 member
    rw [Row.advance_final]
    exact raises.higher before inside (by simpa using named) hits

/-- As long as a row without the raised id wins, it also wins against the row as it was. -/
theorem wins (raises : Raises near blend rows better)
    (won : winner.Wins blend (rows.map better.raised)) (other : winner.id ≠ better.id) :
    winner.Wins blend rows := by
  obtain ⟨winning, leads⟩ := Row.wins_iff.1 won
  obtain ⟨member, isOpen⟩ := mem_of_openRows winning
  obtain ⟨row, there, rfl⟩ := List.mem_map.1 member
  rw [Row.raised_id] at other
  rw [Row.raised_of_ne other] at leads isOpen ⊢
  refine Row.wins_iff.2 ⟨List.mem_filter.2 ⟨there, isOpen⟩, fun rival rivalOpen => ?_⟩
  obtain ⟨inside, rivalOpen⟩ := mem_of_openRows rivalOpen
  have ahead := leads (better.raised rival) (List.mem_filter.2
    ⟨List.mem_map_of_mem inside, Row.raised_isOpen.trans rivalOpen⟩)
  exact Row.leads_of_le ahead (raises.final_le inside) Row.raised_moment.symm Row.raised_id.symm

end Raises

theorem apart_raised (apart : AreApart rows) (better : Row α ℚ) :
    AreApart (rows.map better.raised) where
  once := by
    rw [List.map_map]
    have ids : Row.id ∘ better.raised = Row.id := funext fun row => Row.raised_id
    rw [ids]
    exact apart.once
  timed _ _ := rfl

/-- The two runs make the same placements up to the one of the better row. -/
theorem rounds_raised (apart : AreApart rows) (raises : Raises near blend rows better)
    {old : Row α ℚ} (there : old ∈ rows) (isOpen : old.isOpen = true) (named : old.id = better.id)
    {count : Nat} (size : (openRows rows).length = count) {placements others : List (Placement α ℚ)}
    (ended : rounds near blend count rows = .ok placements)
    (ended' : rounds near blend count (rows.map better.raised) = .ok others) :
    ∃ before between first after first' after',
      placements = before ++ between ++ first :: after ∧ others = before ++ first' :: after' ∧
        first.item = old.item ∧ first'.item = better.item := by
  induction count generalizing rows old placements others with
  | zero =>
    have none := List.eq_nil_of_length_eq_zero size
    have inside : old ∈ openRows rows := List.mem_filter.2 ⟨there, isOpen⟩
    exact absurd (none ▸ inside) List.not_mem_nil
  | succ count ih =>
    have everyone := rounds_perm size (fun _ _ _ => rfl) ended
    obtain ⟨first, after, rest, one, later, rfl⟩ := rounds_succ_ok ended
    obtain ⟨first', after', rest', one', later', rfl⟩ := rounds_succ_ok ended'
    obtain ⟨winner', won', rfl, rfl⟩ := wins_of_round (apart_raised apart better) one'
    -- Once the better row wins the second run, the old one is somewhere further in the first, and
    -- the rest does not matter. Until then one winner leads both runs.
    by_cases better' : winner'.id = better.id
    · obtain ⟨row, _, rfl⟩ := List.mem_map.1 won'.there
      rw [Row.raised_id] at better'
      obtain ⟨placement, placed, item⟩ := List.mem_map.1 (everyone.mem_iff.2
        (List.mem_map_of_mem (List.mem_filter.2 ⟨there, isOpen⟩)))
      obtain ⟨before, after, split⟩ := List.append_of_mem placed
      refine ⟨[], before, placement, after, _, rest', split, rfl, item, ?_⟩
      rw [Row.placed, Row.raised, if_pos better']
    · have left := length_of_taken (round_takes (fun _ _ _ => rfl) one).1 size
      obtain ⟨winner, won, rfl, rfl⟩ := wins_of_round apart one
      obtain rfl := won.unique apart (raises.wins won' better')
      rw [raises.advance_raised winner] at later'
      have stays : old.id ≠ winner.id := fun same => better' (same ▸ named)
      obtain ⟨before, between, placement, after, placement', after', rfl, rfl, item, item'⟩ :=
        ih (apart.advance near winner) (raises.advance winner) (List.mem_map_of_mem there)
          ((Row.advance_isOpen stays).trans isOpen) (by simpa using named) left later later'
      exact ⟨_ :: before, between, placement, after, placement', after', rfl, rfl,
        item.trans (Row.advance_item near old winner), item'⟩

theorem Row.final_mono (proper : blend.IsProper) {row better : Row α ℚ}
    (hits : row.hits = better.hits) (base : row.base ≤ better.base) (up : 0 ≤ better.base)
    (novelty : row.novelty ≤ better.novelty) (up' : 0 ≤ better.novelty)
    (seen : row.seen ≤ better.seen) (up'' : 0 ≤ row.seen) :
    row.final blend ≤ better.final blend := by
  have diverse : row.diversity ≤ better.diversity := by
    rw [diversity, diversity, hits]
    simp only [Exact.one_eq, Exact.ofInt_eq, Exact.ratio_eq]
    exact div_le_div_of_nonneg_right novelty (by positivity)
  have diverse' : 0 ≤ better.diversity := by
    rw [diversity]
    simp only [Exact.one_eq, Exact.ofInt_eq, Exact.ratio_eq]
    positivity
  have blended := add_le_add base (mul_le_mul_of_nonneg_right diverse proper.diversity)
  have blended' : 0 ≤ better.base + better.diversity * blend.diversity :=
    add_nonneg up (mul_nonneg diverse' proper.diversity)
  exact mul_le_mul (div_le_div_of_nonneg_right blended proper.total.le) seen up''
    (div_nonneg blended' proper.total.le)

end Greedy

section

variable {C : Type} {weights : Weights ℚ} {better c : Candidate C ℚ}

structure Candidate.Improves (better c : Candidate C ℚ) : Prop where
  post : better.post = c.post
  vector : better.vector = c.vector
  contentType : better.contentType = c.contentType
  similarity : c.similarity ≤ better.similarity
  engagement : c.engagement ≤ better.engagement
  temporal : c.temporal ≤ better.temporal
  privacy : c.privacy ≤ better.privacy
  novelty : c.novelty ≤ better.novelty
  seen : c.seen ≤ better.seen

namespace Candidate.Improves

theorem isUp (improves : better.Improves c) (up : c.IsUp) : better.IsUp := by
  obtain ⟨engagement, temporal, privacy, novelty, seen⟩ := up
  rw [Exact.isNegative_eq_false] at engagement temporal privacy novelty seen
  exact ⟨(Exact.isNegative_eq_false _).2 (engagement.trans improves.engagement),
    (Exact.isNegative_eq_false _).2 (temporal.trans improves.temporal),
    (Exact.isNegative_eq_false _).2 (privacy.trans improves.privacy),
    (Exact.isNegative_eq_false _).2 (novelty.trans improves.novelty),
    (Exact.isNegative_eq_false _).2 (seen.trans improves.seen)⟩

theorem base_le (improves : better.Improves c) (proper : weights.IsProper) :
    c.base weights ≤ better.base weights := by
  have up (signal : Signal) := (Exact.isNegative_eq_false _).1 (proper.up signal)
  have similar := mul_le_mul_of_nonneg_right (max_le_max_left 0 improves.similarity)
    (up .similarity)
  have recent := mul_le_mul_of_nonneg_right improves.temporal (up .temporal)
  have engaged := mul_le_mul_of_nonneg_right improves.engagement (up .engagement)
  have kept := mul_le_mul_of_nonneg_right improves.privacy (up .privacy)
  rw [base, base, Exact.larger_eq, Exact.larger_eq, Exact.zero_eq]
  exact add_le_add (add_le_add (add_le_add similar recent) engaged) kept

theorem finalWith_le (improves : better.Improves c) (up : c.IsUp) (proper : weights.IsProper)
    (hits : Nat) : c.finalWith weights hits ≤ better.finalWith weights hits := by
  have up' := improves.isUp up
  exact Greedy.Row.final_mono (Weights.blend_isProper proper) rfl (improves.base_le proper)
    ((Exact.isNegative_eq_false _).1 (isNegative_base proper up')) improves.novelty
    ((Exact.isNegative_eq_false _).1 up'.novelty) improves.seen
    ((Exact.isNegative_eq_false _).1 up.seen)

end Candidate.Improves

variable [Component C ℚ] {front back : List (Candidate C ℚ)}

omit [Component C ℚ] in
theorem raised_candidates (weights : Weights ℚ) (improves : better.Improves c)
    (fresh : ∀ d ∈ front ++ back, d.post.id ≠ c.post.id) :
    ((front ++ c :: back).map fun c => c.row weights c).map (better.row weights better).raised =
      (front ++ better :: back).map fun c => c.row weights c := by
  have others (ds : List (Candidate C ℚ)) (inside : ds ⊆ front ++ back) :
      (ds.map fun c => c.row weights c).map (better.row weights better).raised =
        ds.map fun c => c.row weights c := by
    rw [List.map_map]
    exact List.map_congr_left fun d member => Greedy.Row.raised_of_ne fun same =>
      fresh d (inside member) (same.trans (congrArg Post.id improves.post))
  have named : (c.row weights c).id = (better.row weights better).id :=
    (congrArg Post.id improves.post).symm
  have here : (better.row weights better).raised (c.row weights c) = better.row weights better := by
    rw [Greedy.Row.raised, if_pos named]
    simp only [Candidate.row, improves.post]
  rw [List.map_append, List.map_append, List.map_append, List.map_cons, List.map_cons,
    List.map_cons, here, others front (List.subset_append_left _ _),
    others back (List.subset_append_right _ _)]

theorem raises_candidates {threshold : ℚ} (proper : weights.IsProper) (up : c.IsUp)
    (improves : better.Improves c) (once : ((front ++ c :: back).map (·.post.id)).Nodup) :
    Greedy.Raises (Candidate.isNear threshold) weights.blend
      ((front ++ c :: back).map fun c => c.row weights c) (better.row weights better) := by
  have only : ∀ row ∈ (front ++ c :: back).map fun c => c.row weights c,
      row.id = better.post.id → row = c.row weights c := fun row member named =>
    (apart_candidates once).eq_of_id member (List.mem_map_of_mem (by simp))
      (named.trans (congrArg Post.id improves.post))
  refine ⟨fun row member named placed => ?_, fun row member named hits => ?_⟩
  · rw [only row member named]
    simp only [Candidate.isNear, Candidate.row, improves.vector]
  · rw [only row member named]
    exact improves.finalWith_le up proper hits

/-- A candidate that gets better moves up or stays where it is, and whatever comes before it then
came before it already, in the same order and with the same scores. -/
theorem rank_of_improved {given : Signal → Json ℚ} {weights : Weights ℚ}
    (accepted : Weights.check given = .ok weights) (threshold : ℚ)
    {front back : List (Candidate C ℚ)} {c better : Candidate C ℚ}
    (once : ((front ++ c :: back).map (·.post.id)).Nodup) (up : c.IsUp)
    (improves : better.Improves c) :
    ∃ before between diversity final after diversity' final' after',
      rank weights threshold (front ++ c :: back) =
        .ok (before ++ between ++ c.scored diversity final :: after) ∧
      rank weights threshold (front ++ better :: back) =
        .ok (before ++ better.scored diversity' final' :: after') ∧
      ∀ s ∈ before ++ between, s.post.id ≠ c.post.id := by
  have fresh : ∀ d ∈ front ++ back, d.post.id ≠ c.post.id := by
    rw [List.map_append, List.map_cons, List.nodup_middle, ← List.map_append] at once
    exact fun d member same => (List.nodup_cons.1 once).1 (same ▸ List.mem_map_of_mem member)
  obtain ⟨ranked, ended⟩ : ∃ ranked, rank weights threshold (front ++ c :: back) = .ok ranked :=
    rank_isOk OrderRules.le_refl (fun _ _ _ => rfl) fun _ _ _ => rfl
  obtain ⟨ranked', ended'⟩ : ∃ ranked,
      rank weights threshold (front ++ better :: back) = .ok ranked :=
    rank_isOk OrderRules.le_refl (fun _ _ _ => rfl) fun _ _ _ => rfl
  have distinct := nodup_of_rank once (fun _ _ _ => rfl) ended
  rw [rank_eq_rankBy] at ended ended'
  obtain ⟨placements, ordered, same⟩ := ok_of_bind ended
  obtain ⟨placements', ordered', same'⟩ := ok_of_bind ended'
  cases same
  cases same'
  -- The second ranking starts from the rows of the first with one of them raised.
  rw [← raised_candidates weights improves fresh, Greedy.order, List.length_map] at ordered'
  obtain ⟨before, between, first, after, first', after', rfl, rfl, item, item'⟩ :=
    Greedy.rounds_raised (apart_candidates once)
      (raises_candidates (Weights.isProper_of_check accepted) up improves once)
      (List.mem_map_of_mem List.mem_append_cons_self) rfl
      (congrArg Post.id improves.post).symm (by rw [openRows_candidates]) ordered ordered'
  change first.item = c at item
  change first'.item = better at item'
  subst item item'
  rw [rank_eq_rankBy, rank_eq_rankBy, ended, ended']
  refine ⟨_, _, _, _, _, _, _, _, by rw [List.map_append, List.map_append, List.map_cons],
    by rw [List.map_append, List.map_cons], ?_⟩
  rw [List.map_append, List.map_cons, List.map_append, List.map_append, List.map_cons,
    List.nodup_middle, ← List.map_append, List.nodup_cons] at distinct
  exact fun s member same =>
    distinct.1 (same ▸ List.mem_map_of_mem (List.mem_append_left _ member))

end

/-- Of two posts of the same direction, the second one is saved and commented on. -/
theorem rank_of_improved_second :
    let better : Candidate ℚ ℚ := { plainCandidate "b" with engagement := 1 }
    ∃ before between diversity final after diversity' final' after',
      rank .default (9 / 10) [plainCandidate "a", plainCandidate "b"] =
        .ok (before ++ between ++ (plainCandidate "b").scored diversity final :: after) ∧
      rank .default (9 / 10) [plainCandidate "a", better] =
        .ok (before ++ better.scored diversity' final' :: after') ∧
      ∀ s ∈ before ++ between, s.post.id ≠ "b" := by
  have one : Scalar.isNegative (1 : ℚ) = false := (Exact.isNegative_eq_false 1).2 zero_le_one
  have zero : Scalar.isNegative (0 : ℚ) = false := (Exact.isNegative_eq_false 0).2 (le_refl 0)
  have once : (([plainCandidate "a"] ++ plainCandidate "b" :: []).map (·.post.id)).Nodup := by
    decide
  exact rank_of_improved (Weights.check_reals (fun _ => rfl) Weights.default_isProper) (9 / 10)
    once ⟨zero, one, one, one, one⟩
    ⟨rfl, rfl, rfl, le_refl _, zero_le_one, le_refl _, le_refl _, le_refl _, le_refl _⟩

end PersonalFeed
