import Mathlib.Algebra.Order.Field.Rat
import Mathlib.Data.Rat.Cast.Defs
import Mathlib.Tactic.Linarith
import PersonalFeed.Proofs.Ranking.Contest

/-!
The rounds of the greedy order in exact arithmetic. Whenever a row is open there is one that wins,
and to win is to be open and to take precedence over every open row.
-/

set_option autoImplicit false

namespace PersonalFeed

instance : Scalar ℚ where
  ratio n d := n / d
  lt a b := a < b
  le a b := a ≤ b
  isNaN _ := false
  isFinite _ := true

namespace Exact

@[simp] theorem ratio_eq (n : Int) (d : Nat) : (Scalar.ratio n d : ℚ) = n / d := rfl

@[simp] theorem ofInt_eq (n : Int) : (Scalar.ofInt n : ℚ) = n := by
  simp [Scalar.ofInt]

@[simp] theorem zero_eq : (Scalar.zero : ℚ) = 0 := by
  simp [Scalar.zero]

@[simp] theorem one_eq : (Scalar.one : ℚ) = 1 := by
  simp [Scalar.one]

@[simp] theorem lt_iff (a b : ℚ) : Scalar.lt a b = true ↔ a < b := decide_eq_true_iff

@[simp] theorem isBottom_eq (x : ℚ) : Scalar.isBottom x = false := rfl

@[simp] theorem isNaN_eq (x : ℚ) : Scalar.isNaN x = false := rfl

theorem larger_eq (a b : ℚ) : Scalar.larger a b = max a b := by
  unfold Scalar.larger
  by_cases less : a < b
  · rw [if_pos ((lt_iff a b).2 less), max_eq_right less.le]
  · rw [if_neg (by simpa using less), max_eq_left (not_lt.1 less)]

theorem eq_iff (a b : ℚ) : Scalar.eq a b = true ↔ a = b := by
  have split : Scalar.eq a b = (decide (a ≤ b) && decide (b ≤ a)) := rfl
  rw [split, Bool.and_eq_true, decide_eq_true_iff, decide_eq_true_iff]
  exact ⟨fun both => le_antisymm both.1 both.2, fun same => ⟨same.le, same.ge⟩⟩

instance : OrderRules ℚ where
  le_total x y _ _ := (le_total x y).imp decide_eq_true decide_eq_true
  le_trans _ _ _ first second :=
    decide_eq_true ((of_decide_eq_true first).trans (of_decide_eq_true second))
  lt_eq x y _ _ := by
    rw [Bool.eq_iff_iff, lt_iff, Bool.not_eq_true', ← not_le]
    exact decide_eq_false_iff_not.symm
  bottom _ _ _ := id
  ratio _ _ _ := rfl
  finite _ _ := rfl

end Exact

namespace Greedy

variable {α : Type} {blend : Blend ℚ} {rows : List (Row α ℚ)} {best : ℚ}

namespace Row

theorem winsTie_iff (a b : Row α ℚ) :
    a.winsTie b = true ↔ b.moment < a.moment ∨ (a.moment = b.moment ∧ a.id < b.id) := by
  unfold winsTie
  rcases lt_trichotomy a.moment b.moment with earlier | same | later
  · have other : ¬ b.moment < a.moment := not_lt.2 earlier.le
    simp [earlier, other, earlier.ne]
  · simp [same]
  · have other : ¬ a.moment < b.moment := not_lt.2 later.le
    simp [later]

end Row

theorem isBest_iff (row : Row α ℚ) :
    isBest blend best row = true ↔ row.isOpen = true ∧ row.final blend = best := by
  cases isOpen : row.isOpen with
  | true => simp [isBest, Row.openScore, isOpen, Exact.eq_iff]
  | false => simp [isBest, Row.openScore, isOpen]

/-- A row takes precedence over another one by a greater final score, or by an equal one if the
other does not win the tie. -/
def Row.Leads (blend : Blend ℚ) (a b : Row α ℚ) : Prop :=
  b.final blend < a.final blend ∨ (b.final blend = a.final blend ∧ ¬ b.winsTie a = true)

theorem Row.wins_iff {winner : Row α ℚ} : winner.Wins blend rows ↔
    winner ∈ openRows rows ∧ ∀ other ∈ openRows rows, winner.Leads blend other := by
  constructor
  · rintro ⟨there, _, leader, _, greatest, best, unbeaten⟩
    obtain ⟨isOpen, final⟩ := (isBest_iff winner).1 best
    refine ⟨List.mem_filter.2 ⟨there, isOpen⟩, fun other otherOpen => ?_⟩
    obtain ⟨inside, isOpen⟩ := mem_of_openRows otherOpen
    rcases lt_or_eq_of_le (of_decide_eq_true (greatest other otherOpen)) with less | same
    · exact .inl (final ▸ less)
    · exact .inr ⟨same.trans final.symm, unbeaten other inside ((isBest_iff other).2 ⟨isOpen, same⟩)⟩
  · rintro ⟨winning, leads⟩
    refine ⟨(mem_of_openRows winning).1, fun _ _ => rfl, winner, winning, fun other otherOpen => ?_,
      (isBest_iff winner).2 ⟨(mem_of_openRows winning).2, rfl⟩, fun other inside tied => ?_⟩
    · rcases leads other otherOpen with less | same
      · exact decide_eq_true less.le
      · exact decide_eq_true same.1.le
    · obtain ⟨isOpen, final⟩ := (isBest_iff other).1 tied
      rcases leads other (List.mem_filter.2 ⟨inside, isOpen⟩) with less | same
      · exact absurd final less.ne
      · exact same.2

/-- What a round does in exact arithmetic: it places an open row that leads all open ones. -/
theorem round_exact (near : α → α → Bool) (blend : Blend ℚ) (some : openRows rows ≠ []) :
    ∃ place row, rows[place]? = .some row ∧ row.isOpen = true ∧
      (∀ other ∈ openRows rows, row.Leads blend other) ∧
      round near blend rows = .ok (⟨row.item, row.diversity, row.final blend⟩,
        countHits near row.item (close rows place)) := by
  obtain ⟨first, after, ended⟩ : ∃ first after, round near blend rows = .ok (first, after) :=
    round_isOk near OrderRules.le_refl (fun _ _ => rfl) some
  obtain ⟨best, place, row, scored, won, rfl, rfl⟩ := round_ok ended
  obtain ⟨winning, leads⟩ := Row.wins_iff.1 (wins_of_winner (fun _ _ => rfl) scored won)
  exact ⟨place, row, (winner_spec won).1, (mem_of_openRows winning).2, leads, ended⟩

end Greedy

end PersonalFeed
