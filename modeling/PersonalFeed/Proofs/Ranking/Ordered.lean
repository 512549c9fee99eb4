import PersonalFeed.Proofs.Number.Order
import PersonalFeed.Proofs.Sorting
import PersonalFeed.Proofs.Text
import PersonalFeed.Ranking.Candidate

/-!
The order of scored posts. Final scores, moments and ids are compared one after the other, and where
every final score is a number this is an order of all posts. So sorting puts each post behind those
that precede it, and no two posts of different ids are at one place.
-/

set_option autoImplicit false

namespace PersonalFeed

open Scalar

namespace Scored

variable {C R : Type} [Scalar R]

def created (s : Scored C R) : R := s.post.createdAt.seconds

/-- A higher final score, or the same and a later creation, or both the same and a smaller id. -/
def Before (a b : Scored C R) : Prop :=
  lt b.final a.final = true ∨
    (Scalar.eq a.final b.final = true ∧
      (lt b.created a.created = true ∨
        (Scalar.eq a.created b.created = true ∧ a.post.id < b.post.id)))

variable [OrderRules R]

theorem isNaN_created (s : Scored C R) : isNaN s.created = false :=
  OrderRules.ratio _ _ (by decide)

theorem not_precedes_iff {a b : Scored C R} (left : isNaN a.final = false)
    (right : isNaN b.final = false) :
    b.precedes a = false ↔
      le b.final a.final = true ∧ (le a.final b.final = true →
        le b.created a.created = true ∧
          (le a.created b.created = true → ¬ b.post.id < a.post.id)) := by
  change (if (le b.final a.final && le a.final b.final) = true then
    if (le b.created a.created && le a.created b.created) = true then
      decide (b.post.id < a.post.id) else lt a.created b.created
    else lt a.final b.final) = false ↔ _
  rw [OrderRules.lt_eq _ _ left right,
    OrderRules.lt_eq _ _ a.isNaN_created b.isNaN_created]
  cases le b.final a.final <;> cases le a.final b.final <;>
    cases le b.created a.created <;> cases le a.created b.created <;> simp

theorem not_precedes_total {a b : Scored C R} (left : isNaN a.final = false)
    (right : isNaN b.final = false) : b.precedes a = false ∨ a.precedes b = false := by
  rw [not_precedes_iff left right, not_precedes_iff right left]
  -- Ties are passed on to the next respect, and of two ids one is not the smaller one.
  have finals := OrderRules.le_total _ _ left right
  have moments := OrderRules.le_total _ _ a.isNaN_created b.isNaN_created
  have ids : ¬ b.post.id < a.post.id ∨ ¬ a.post.id < b.post.id := by
    by_cases less : b.post.id < a.post.id
    · exact .inr fun more => Text.lt_irrefl _ (Text.lt_trans less more)
    · exact .inl less
  grind

theorem not_precedes_trans {a b c : Scored C R} (first : isNaN a.final = false)
    (second : isNaN b.final = false) (third : isNaN c.final = false)
    (ahead : b.precedes a = false) (behind : c.precedes b = false) : c.precedes a = false := by
  rw [not_precedes_iff first second] at ahead
  rw [not_precedes_iff second third] at behind
  rw [not_precedes_iff first third]
  refine ⟨OrderRules.le_trans _ _ _ behind.1 ahead.1, fun level => ?_⟩
  obtain ⟨later, smaller⟩ := ahead.2 (OrderRules.le_trans _ _ _ level behind.1)
  obtain ⟨later', smaller'⟩ := behind.2 (OrderRules.le_trans _ _ _ ahead.1 level)
  refine ⟨OrderRules.le_trans _ _ _ later' later, fun together => ?_⟩
  exact Text.not_lt_trans (smaller' (OrderRules.le_trans _ _ _ later together))
    (smaller (OrderRules.le_trans _ _ _ together later'))

/-- Of two posts of different ids the one that is not preceded comes before. -/
theorem before_of_not_precedes {a b : Scored C R} (left : isNaN a.final = false)
    (right : isNaN b.final = false) (differ : a.post.id ≠ b.post.id)
    (ahead : b.precedes a = false) : a.Before b := by
  obtain ⟨higher, decides⟩ := (not_precedes_iff left right).1 ahead
  rw [Before, OrderRules.lt_eq _ _ right left,
    OrderRules.lt_eq _ _ b.isNaN_created a.isNaN_created, Scalar.eq, Scalar.eq, higher]
  cases level : le a.final b.final with
  | false => exact .inl rfl
  | true =>
    obtain ⟨later, smaller⟩ := decides level
    rw [later]
    cases together : le a.created b.created with
    | false => exact .inr ⟨rfl, .inl rfl⟩
    | true =>
      refine .inr ⟨rfl, .inr ⟨rfl, Decidable.byContradiction fun not => differ ?_⟩⟩
      exact Text.eq_of_not_lt not (smaller together)

/-- Sorted posts whose scores are numbers: none precedes an earlier one. -/
theorem ordered_pairwise {scored : List (Scored C R)}
    (numbers : ∀ s ∈ scored, isNaN s.final = false) :
    (ordered scored).Pairwise fun a b => b.precedes a = false := by
  have strays : (scored.any fun s => isNaN s.final) = false :=
    List.any_eq_false.2 fun s member => by simp [numbers s member]
  rw [ordered, Sorting.sortStrays, strays, if_neg Bool.false_ne_true]
  -- The relation is an order of posts with numbers only, so these are sorted among themselves.
  let Numbered := { s : Scored C R // isNaN s.final = false }
  let ahead (a b : Numbered) : Bool := !precedes b.1 a.1
  have trans (a b c : Numbered) (first : ahead a b = true) (second : ahead b c = true) :
      ahead a c = true := by
    simp only [ahead, Bool.not_eq_true'] at *
    exact not_precedes_trans a.2 b.2 c.2 first second
  have total (a b : Numbered) : (ahead a b || ahead b a) = true := by
    simp only [ahead, Bool.or_eq_true, Bool.not_eq_true']
    exact not_precedes_total a.2 b.2
  have sorted := List.pairwise_mergeSort trans total (scored.attachWith _ numbers)
  have values : (scored.attachWith _ numbers).map Subtype.val = scored := by simp
  have same : ((scored.attachWith _ numbers).mergeSort ahead).map Subtype.val =
      ((scored.attachWith _ numbers).map Subtype.val).mergeSort fun a b => !b.precedes a :=
    List.map_mergeSort fun a _ b _ => rfl
  rw [← values, ← same, List.pairwise_map]
  exact sorted.imp fun first => by simpa [ahead] using first

theorem ordered_before {scored : List (Scored C R)}
    (numbers : ∀ s ∈ scored, isNaN s.final = false)
    (distinct : (scored.map (·.post.id)).Nodup) : (ordered scored).Pairwise Before := by
  have shuffled : (ordered scored).Perm scored := Sorting.sortStrays_perm _ _ _
  have apart : (ordered scored).Pairwise fun a b => a.post.id ≠ b.post.id :=
    List.pairwise_map.1 ((shuffled.map _).nodup_iff.2 distinct)
  refine ((ordered_pairwise numbers).and apart).imp_of_mem fun first second both => ?_
  exact before_of_not_precedes (numbers _ (shuffled.mem_iff.1 first))
    (numbers _ (shuffled.mem_iff.1 second)) both.2 both.1

end Scored

end PersonalFeed
