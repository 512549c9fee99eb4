import PersonalFeed.Number.Scalar

/-!
The order of numbers, whatever their arithmetic. An undefined number has no place in it, so nothing
is asked of those.
-/

set_option autoImplicit false

namespace PersonalFeed

open Scalar

/-- The rules of order. Any two numbers can be compared unless one of them is undefined. -/
class OrderRules (R : Type) [Scalar R] : Prop where
  le_total (x y : R) : isNaN x = false → isNaN y = false → le x y = true ∨ le y x = true
  le_trans (x y z : R) : le x y = true → le y z = true → le x z = true
  lt_eq (x y : R) : isNaN x = false → isNaN y = false → lt x y = !le y x
  /-- Nothing is below an infinitely small number but others of that kind. -/
  bottom (x y : R) : le x y = true → isBottom y = true → isBottom x = true
  ratio (n : Int) (d : Nat) : 0 < d → isNaN (Scalar.ratio n d : R) = false
  finite (x : R) : isFinite x = true → isNaN x = false

namespace OrderRules

variable {R : Type} [Scalar R] [OrderRules R] {x y : R}

theorem le_refl (x : R) (defined : isNaN x = false) : le x x = true :=
  (le_total x x defined defined).elim id id

theorem le_of_not_le (left : isNaN x = false) (right : isNaN y = false) (not : ¬ le x y = true) :
    le y x = true := (le_total x y left right).resolve_left not

omit [OrderRules R] in
theorem not_bottom (finite : isFinite x = true) : isBottom x = false := by
  rw [isBottom, finite]
  rfl

omit [OrderRules R] in
theorem isNaN_larger (left : isNaN x = false) (right : isNaN y = false) :
    isNaN (larger x y) = false := by
  unfold larger
  split
  · exact right
  · exact left

theorem le_larger (left : isNaN x = false) (right : isNaN y = false) :
    le x (larger x y) = true ∧ le y (larger x y) = true := by
  unfold larger
  rw [lt_eq x y left right]
  cases above : le y x with
  | true => exact ⟨le_refl x left, above⟩
  | false => exact ⟨le_of_not_le right left (Bool.eq_false_iff.1 above), le_refl y right⟩

theorem le_foldl_larger {first : R} {rest : List R}
    (defined : ∀ x ∈ first :: rest, isNaN x = false) :
    ∀ x ∈ first :: rest, le x (rest.foldl larger first) = true := by
  induction rest generalizing first with
  | nil =>
    intro x member
    rw [List.mem_singleton.1 member]
    exact le_refl first (defined first List.mem_cons_self)
  | cons second rest ih =>
    have left := defined first List.mem_cons_self
    have right := defined second (List.mem_cons_of_mem _ List.mem_cons_self)
    have both := le_larger left right
    have numbers : ∀ x ∈ larger first second :: rest, isNaN x = false := fun x member => by
      rcases List.mem_cons.1 member with rfl | member
      · exact isNaN_larger left right
      · exact defined x (List.mem_cons_of_mem _ (List.mem_cons_of_mem _ member))
    have bound := ih numbers
    have greatest := bound _ List.mem_cons_self
    intro x member
    rcases List.mem_cons.1 member with rfl | member
    · exact le_trans _ _ _ both.1 greatest
    · rcases List.mem_cons.1 member with rfl | member
      · exact le_trans _ _ _ both.2 greatest
      · exact bound x (List.mem_cons_of_mem _ member)

end OrderRules

end PersonalFeed
