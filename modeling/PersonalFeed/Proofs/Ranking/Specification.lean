import Mathlib.Data.List.Forall2
import Mathlib.Data.List.Perm.Basic
import Mathlib.Data.Rat.Sqrt
import Mathlib.Tactic.Ring
import PersonalFeed.Proofs.Ranking.Exact
import PersonalFeed.Proofs.Ranking.Normalized

/-!
What the greedy ranking computes in exact arithmetic. The engine counts hits as it places rows, from
the placed row to those that are left. The specification recounts: the diversity of a candidate at
its place is found by looking back from it at everything placed before.
-/

set_option autoImplicit false

namespace PersonalFeed

theorem perm_map {α β : Type} {f : α → β} {images : List β} {items : List α}
    (shuffled : images.Perm (items.map f)) :
    ∃ order : List α, order.Perm items ∧ images = order.map f := by
  have origins : List.Forall₂ (fun image item => image = f item) (items.map f) items := by
    rw [List.forall₂_map_left_iff]
    exact List.forall₂_same.2 fun _ _ => rfl
  obtain ⟨order, images, perm⟩ := List.perm_comp_forall₂ shuffled origins
  rw [← List.forall₂_map_right_iff, List.forall₂_eq_eq_eq] at images
  exact ⟨order, perm, images⟩

namespace Greedy

variable {α : Type} {near : α → α → Bool} {blend : Blend ℚ}

def Row.after (near : α → α → Bool) (placed : List α) (row : Row α ℚ) : Row α ℚ :=
  { row with hits := row.hits + placed.countP fun item => near item row.item }

def Row.placement (blend : Blend ℚ) (row : Row α ℚ) : Placement α ℚ :=
  ⟨row.item, row.diversity, row.final blend⟩

@[simp] theorem Row.after_nil (row : Row α ℚ) : row.after near [] = row := rfl

@[simp] theorem Row.item_afterPlacing (placed : α) (row : Row α ℚ) :
    (row.afterPlacing near placed).item = row.item := by
  unfold afterPlacing
  split <;> rfl

theorem items_afterPlacing (placed : α) (order : List (Row α ℚ)) (k : Nat) :
    ((order.map (Row.afterPlacing near placed)).take k).map Row.item =
      (order.take k).map Row.item := by
  rw [← List.map_take, List.map_map]
  exact List.map_congr_left fun row _ => Row.item_afterPlacing placed row

theorem Row.after_cons (first : α) (placed : List α) (row : Row α ℚ) :
    row.after near (first :: placed) = (row.afterPlacing near first).after near placed := by
  unfold after afterPlacing
  by_cases close : near first row.item
  · simp only [List.countP_cons, close, if_true]
    rw [Nat.add_right_comm, Nat.add_assoc]
  · simp [close]

def LedThroughout (near : α → α → Bool) (blend : Blend ℚ) (order : List (Row α ℚ)) : Prop :=
  ∀ k row later, order.drop k = row :: later → ∀ other ∈ later,
    (row.after near ((order.take k).map Row.item)).Leads blend
      (other.after near ((order.take k).map Row.item))

theorem ledThroughout_cons {first : Row α ℚ} {order : List (Row α ℚ)}
    (leads : ∀ other ∈ order, first.Leads blend other)
    (later : LedThroughout near blend (order.map (Row.afterPlacing near first.item))) :
    LedThroughout near blend (first :: order) := by
  intro k row rest split other member
  cases k with
  | zero =>
    cases split
    exact leads other member
  | succ k =>
    rw [List.drop_succ_cons] at split
    have ahead := later k (row.afterPlacing near first.item)
      (rest.map (Row.afterPlacing near first.item)) (by rw [← List.map_drop, split]; rfl) _
      (List.mem_map_of_mem member)
    rw [items_afterPlacing] at ahead
    rw [List.take_succ_cons, List.map_cons, Row.after_cons, Row.after_cons]
    exact ahead

/-- As many rounds as there are open rows place all of these, each as it is after the items before
it, and in an order in which each leads all that are left. -/
theorem rounds_exact (near : α → α → Bool) (blend : Blend ℚ) (count : Nat) (rows : List (Row α ℚ))
    (size : (openRows rows).length = count) :
    ∃ order, order.Perm (openRows rows) ∧ LedThroughout near blend order ∧
      rounds near blend count rows = .ok (order.mapIdx fun k row =>
        (row.after near ((order.take k).map Row.item)).placement blend) := by
  induction count generalizing rows with
  | zero =>
    refine ⟨[], ?_, fun k row later split => ?_, rfl⟩
    · rw [List.eq_nil_of_length_eq_zero size]
    · rw [List.drop_nil] at split
      cases split
  | succ count ih =>
    have some : openRows rows ≠ [] := by
      intro none
      rw [none] at size
      cases size
    obtain ⟨place, row, there, isOpen, leads, one⟩ := round_exact near blend some
    have taken := openRows_close there isOpen
    have left : openRows (countHits near row.item (close rows place)) =
        (openRows (close rows place)).map (Row.afterPlacing near row.item) :=
      openRows_countHits near row.item (close rows place)
    -- The other rounds run on rows that have the hits of this one, so their order is that of the
    -- images of the rows left.
    obtain ⟨images, shuffled, led, placed⟩ := ih (countHits near row.item (close rows place)) (by
      have lengths := taken.length_eq
      rw [left, List.length_map]
      rw [size, List.length_cons] at lengths
      omega)
    rw [left] at shuffled
    obtain ⟨order, perm, rfl⟩ := perm_map shuffled
    refine ⟨row :: order, (perm.cons row).trans taken.symm, ?_, ?_⟩
    · refine ledThroughout_cons (fun other member => leads other ?_) led
      exact taken.symm.mem_iff.1 (List.mem_cons_of_mem _ (perm.mem_iff.1 member))
    · rw [rounds_succ, one]
      change (rounds near blend count _).map _ = _
      rw [placed, List.mapIdx_cons]
      refine congrArg (fun rest => Except.ok (row.placement blend :: rest)) ?_
      refine List.mapIdx_eq_iff.2 fun k => ?_
      rw [List.getElem?_mapIdx, List.getElem?_map, Option.map_map]
      refine congrArg (fun f => order[k]?.map f) (funext fun other => ?_)
      rw [Function.comp_apply, items_afterPlacing, List.take_succ_cons, List.map_cons,
        Row.after_cons]

end Greedy

namespace Candidate

section

variable {C : Type} [Component C ℚ] (weights : Weights ℚ) (threshold : ℚ)
variable (placed : List (Candidate C ℚ)) (c d : Candidate C ℚ)

/-- How many of the candidates placed before have a vector that is near the one of a candidate. -/
def nearCount : Nat := placed.countP (c.isNear threshold)

def diversityAfter : ℚ := c.novelty / (1 + c.nearCount threshold placed / 2)

def finalAfter : ℚ :=
  (max 0 c.similarity * weights.similarity + c.temporal * weights.temporal +
    c.diversityAfter threshold placed * weights.diversity + c.engagement * weights.engagement +
    c.privacy * weights.privacy) /
    (weights.similarity + weights.temporal + weights.diversity + weights.engagement +
      weights.privacy) * c.seen

/-- A candidate is placed ahead of another one: by a greater final score, or by an equal one and a
later creation, or by both equal and an id that is not the larger one. -/
def Precedes : Prop :=
  d.finalAfter weights threshold placed < c.finalAfter weights threshold placed ∨
    d.finalAfter weights threshold placed = c.finalAfter weights threshold placed ∧
      (d.post.createdAt.micros < c.post.createdAt.micros ∨
        d.post.createdAt.micros = c.post.createdAt.micros ∧ ¬ d.post.id < c.post.id)

def scoredAfter : Scored C ℚ :=
  c.scored (c.diversityAfter threshold placed) (c.finalAfter weights threshold placed)

/-- The count of near candidates gives the penalty of the vectors placed before. -/
theorem diversityAfter_eq_penalty {v : Embedding C} (vector : c.vector = some v) :
    c.diversityAfter threshold placed =
      c.novelty * v.penalty (placed.filterMap Candidate.vector) threshold := by
  have count : (placed.filterMap Candidate.vector).countP (v.isNear threshold) =
      c.nearCount threshold placed := by
    rw [nearCount, List.countP_filterMap]
    refine List.countP_congr fun other _ => ?_
    unfold isNear
    rw [vector]
    cases other.vector <;> simp
  rw [diversityAfter, Embedding.penalty, count]
  simp only [matchPenalty, Exact.one_eq, Exact.ofInt_eq, Exact.ratio_eq]
  push_cast
  ring

variable {c}

theorem nearCount_eq_zero (vector : c.vector = none) : c.nearCount threshold placed = 0 := by
  refine List.countP_eq_zero.2 fun other _ => ?_
  unfold isNear
  rw [vector]
  exact Bool.false_ne_true

end

section

variable {C : Type} [Component C ℚ] {weights : Weights ℚ} {threshold : ℚ}
variable {placed : List (Candidate C ℚ)} {c d : Candidate C ℚ}

theorem isNear_comm (symmetric : ∀ v w : Embedding C, v.cosine w = w.cosine v) :
    c.isNear threshold d = d.isNear threshold c := by
  unfold isNear
  cases c.vector with
  | none => cases d.vector <;> rfl
  | some v =>
    cases d.vector with
    | none => rfl
    | some w => exact congrArg (Scalar.lt (Component.narrow threshold)) (symmetric v w)

def rowAfter (weights : Weights ℚ) (threshold : ℚ) (placed : List (Candidate C ℚ))
    (c : Candidate C ℚ) : Greedy.Row (Candidate C ℚ) ℚ :=
  (c.row weights c).after (Candidate.isNear threshold) placed

theorem rowAfter_diversity (weights : Weights ℚ)
    (symmetric : ∀ v w : Embedding C, v.cosine w = w.cosine v) :
    (c.rowAfter weights threshold placed).diversity = c.diversityAfter threshold placed := by
  have hits : (c.rowAfter weights threshold placed).hits = c.nearCount threshold placed := by
    refine (Nat.zero_add _).trans (List.countP_congr fun other _ => ?_)
    change other.isNear threshold c = true ↔ _
    rw [isNear_comm symmetric]
  rw [Greedy.Row.diversity, hits, diversityAfter]
  simp only [Exact.one_eq, Exact.ofInt_eq, Exact.ratio_eq]
  push_cast
  rw [mul_one_div]
  rfl

theorem rowAfter_final (symmetric : ∀ v w : Embedding C, v.cosine w = w.cosine v) :
    (c.rowAfter weights threshold placed).final weights.blend =
      c.finalAfter weights threshold placed := by
  rw [Greedy.Row.final, rowAfter_diversity weights symmetric, finalAfter]
  change (c.base weights + _ * weights.diversity) / weights.total * c.seen = _
  rw [base, Exact.larger_eq, Exact.zero_eq, Weights.total]
  ring

theorem seconds_le_iff (a b : Timestamp) :
    (a.seconds : ℚ) ≤ b.seconds ↔ a.micros ≤ b.micros := by
  simp only [Timestamp.seconds, Exact.ratio_eq]
  rw [div_le_div_iff_of_pos_right (by norm_num), Int.cast_le]

theorem precedes_of_leads (symmetric : ∀ v w : Embedding C, v.cosine w = w.cosine v)
    (leads : (c.rowAfter weights threshold placed).Leads weights.blend
      (d.rowAfter weights threshold placed)) : c.Precedes weights threshold placed d := by
  unfold Greedy.Row.Leads at leads
  rw [rowAfter_final symmetric, rowAfter_final symmetric, Greedy.Row.winsTie_iff] at leads
  rcases leads with less | ⟨same, behind⟩
  · exact .inl less
  · refine .inr ⟨same, ?_⟩
    rw [not_or, not_and, not_lt] at behind
    obtain ⟨notLater, notSmaller⟩ := behind
    change (d.post.createdAt.seconds : ℚ) ≤ c.post.createdAt.seconds at notLater
    rcases lt_or_eq_of_le ((seconds_le_iff _ _).1 notLater) with earlier | together
    · exact .inl earlier
    · exact .inr ⟨together, notSmaller (congrArg (fun n : Int => (n : ℚ) / 1000000) together)⟩

end

end Candidate

section

variable {C : Type} [Component C ℚ]

/-- The greedy ranking is a permutation of the candidates. Each has the diversity and the final
score that come from looking back at the ones placed before it, and precedes all that are left. -/
theorem rank_eq_specification (symmetric : ∀ v w : Embedding C, v.cosine w = w.cosine v)
    (weights : Weights ℚ) (threshold : ℚ) (candidates : List (Candidate C ℚ)) :
    ∃ order : List (Candidate C ℚ), order.Perm candidates ∧
      rank weights threshold candidates = .ok (order.mapIdx fun k c =>
        c.scoredAfter weights threshold (order.take k)) ∧
      ∀ k c later, order.drop k = c :: later →
        (∀ v, c.vector = some v → c.diversityAfter threshold (order.take k) =
          c.novelty * v.penalty ((order.take k).filterMap Candidate.vector) threshold) ∧
        (c.vector = none → c.diversityAfter threshold (order.take k) = c.novelty) ∧
        ∀ d ∈ later, c.Precedes weights threshold (order.take k) d := by
  have allOpen : Greedy.openRows (candidates.map fun c => c.row weights c) =
      candidates.map fun c => c.row weights c := by
    refine List.filter_eq_self.2 fun row member => ?_
    obtain ⟨c, _, rfl⟩ := List.mem_map.1 member
    rfl
  -- The rounds are followed on rows. Each row is that of a candidate before any hit, so they are
  -- turned into an order of candidates.
  obtain ⟨rows, shuffled, led, placed⟩ := Greedy.rounds_exact
    (Candidate.isNear threshold) weights.blend _ (candidates.map fun c => c.row weights c) rfl
  rw [allOpen] at shuffled placed
  obtain ⟨order, perm, rfl⟩ := perm_map shuffled
  have items (k : Nat) :
      ((order.map fun c => c.row weights c).take k).map Greedy.Row.item = order.take k := by
    rw [← List.map_take, List.map_map]
    exact List.map_id _
  refine ⟨order, perm, ?_, fun k c later split => ⟨fun v vector => ?_, fun vector => ?_, ?_⟩⟩
  · rw [rank_eq_rankBy, rankBy, Greedy.order, placed]
    refine congrArg Except.ok (List.ext_getElem? fun k => ?_)
    simp only [List.getElem?_map, List.getElem?_mapIdx, Option.map_map]
    refine congrArg (fun f => order[k]?.map f) (funext fun c => ?_)
    simp only [Function.comp_apply, items]
    rw [Candidate.scoredAfter, ← Candidate.rowAfter_diversity weights symmetric,
      ← Candidate.rowAfter_final symmetric]
    rfl
  · exact Candidate.diversityAfter_eq_penalty threshold _ c vector
  · rw [Candidate.diversityAfter, Candidate.nearCount_eq_zero threshold _ vector]
    simp
  · intro d member
    refine Candidate.precedes_of_leads symmetric ?_
    have leads := led k (c.row weights c) (later.map fun c => c.row weights c)
      (by rw [← List.map_drop, split]; rfl) _ (List.mem_map_of_mem member)
    rwa [items] at leads

end

/-- Exact components; the root of a number that is no square is rounded down. -/
instance : Rooted ℚ where
  sqrt := Rat.sqrt

instance : Component ℚ ℚ where
  narrow := id
  widen := id

theorem Embedding.cosine_comm (v w : Embedding ℚ) : v.cosine w = w.cosine v :=
  congrArg (fun products => clip (totalSum products))
    (@Array.zipWith_comm_of_comm ℚ ℚ _ mul_comm w.normalize.components v.normalize.components)

def plainPost (id : Text) : Post ℚ :=
  ⟨id, "author", .empty, ⟨0, 0⟩, 0, 0, [], none, none, none, none⟩

def plainCandidate (id : Text) : Candidate ℚ ℚ :=
  ⟨plainPost id, 1, 0, 1, 1, 1, 1, "text", some (.replicate 1)⟩

/-- The specification for two posts of the same direction, whose components have exact roots. -/
theorem rank_eq_specification_of_twins :
    ∃ order : List (Candidate ℚ ℚ), order.Perm [plainCandidate "a", plainCandidate "b"] ∧
      rank .default (9 / 10) [plainCandidate "a", plainCandidate "b"] =
        .ok (order.mapIdx fun k c => c.scoredAfter .default (9 / 10) (order.take k)) ∧
      ∀ k c later, order.drop k = c :: later →
        (∀ v, c.vector = some v → c.diversityAfter (9 / 10) (order.take k) =
          c.novelty * v.penalty ((order.take k).filterMap Candidate.vector) (9 / 10)) ∧
        (c.vector = none → c.diversityAfter (9 / 10) (order.take k) = c.novelty) ∧
        ∀ d ∈ later, c.Precedes .default (9 / 10) (order.take k) d :=
  rank_eq_specification Embedding.cosine_comm .default (9 / 10) _

end PersonalFeed
