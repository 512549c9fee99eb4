import Mathlib.Data.List.Nodup
import PersonalFeed.Proofs.Number.Exact
import PersonalFeed.Proofs.Number.Order
import PersonalFeed.Vector.Stored

/-!
The rows nearest a query. Sorting by score keeps rows of equal scores in their order, so the first
rows of the sorted list are told by scores and row numbers alone: what is left out is no better than
what is taken, and no earlier where it is as good.
-/

set_option autoImplicit false

namespace PersonalFeed

open Scalar

section

variable {α : Type} {le : α → α → Bool} {r : α → α → Prop} {items : List α}

theorem pairwise_stable (trans : ∀ a b c, le a b = true → le b c = true → le a c = true)
    (total : ∀ a b, (le a b || le b a) = true) (ordered : items.Pairwise r) :
    (items.mergeSort le).Pairwise fun a b => le a b = true ∧ (le b a = true → r a b) := by
  -- Numbered items are sorted by their numbers where the relation does not decide.
  rw [← List.mergeSort_zipIdx, List.pairwise_map]
  have sorted := List.pairwise_mergeSort (List.zipIdxLE_trans trans) (List.zipIdxLE_total total)
    items.zipIdx
  have once : ((items.zipIdx.mergeSort (List.zipIdxLE le)).map Prod.snd).Nodup := by
    rw [((List.mergeSort_perm items.zipIdx _).map Prod.snd).nodup_iff, List.zipIdx_map_snd]
    exact List.nodup_range'
  refine (sorted.and (List.pairwise_map.1 once)).imp_of_mem fun {a b} first second both => ?_
  obtain ⟨before, apart⟩ := both
  unfold List.zipIdxLE at before
  cases forth : le a.1 b.1 with
  | false => simp [forth] at before
  | true =>
    refine ⟨rfl, fun back => ?_⟩
    have earlier : a.2 < b.2 := by
      have most : a.2 ≤ b.2 := by simpa [forth, back] using before
      omega
    obtain ⟨_, _, isFirst⟩ := List.mem_zipIdx (List.mem_mergeSort.1 first)
    obtain ⟨_, _, isSecond⟩ := List.mem_zipIdx (List.mem_mergeSort.1 second)
    rw [isFirst, isSecond]
    exact List.pairwise_iff_getElem.1 ordered _ _ _ _ (by omega)

end

variable {C R : Type}

section

variable [Scalar C]

structure IsBest (scores : List C) (count : Int) (best : List (Nat × C)) : Prop where
  /-- There are as many as are asked for, or all. -/
  length : (best.length : Int) = min (max count 0) scores.length
  distinct : (best.map Prod.fst).Nodup
  scored : ∀ place ∈ best, scores[place.1]? = some place.2
  /-- Scores go down, and equal ones stand in the order of their rows. -/
  ordered : best.Pairwise fun a b => le b.2 a.2 = true ∧ (le a.2 b.2 = true → a.1 < b.1)
  /-- What is left out is no better than the last one, and worse if it comes from an earlier row. -/
  least : ∀ last ∈ best.getLast?, ∀ row score, scores[row]? = some score →
    row ∉ best.map Prod.fst →
      le score last.2 = true ∧ (row < last.1 → lt score last.2 = true)

def numbered (scores : List C) : List (Nat × C) :=
  scores.zipIdx.map fun (score, row) => (row, score)

omit [Scalar C] in
theorem mem_numbered {scores : List C} {place : Nat × C} :
    place ∈ numbered scores ↔ scores[place.1]? = some place.2 := by
  obtain ⟨row, score⟩ := place
  simp [numbered, List.mem_zipIdx_iff_getElem?]

omit [Scalar C] in
theorem numbers_numbered (scores : List C) :
    (numbered scores).map Prod.fst = List.range scores.length := by
  simp [numbered, Function.comp_def, List.zipIdx_map_snd, List.range_eq_range']

variable [OrderRules C]

theorem scoreOrder_trans (a b c : C) (first : scoreOrder a b = true)
    (second : scoreOrder b c = true) : scoreOrder a c = true := by
  have down := OrderRules.le_trans c b a
  unfold scoreOrder at *
  grind

theorem scoreOrder_total (a b : C) : (scoreOrder a b || scoreOrder b a) = true := by
  have either := OrderRules.le_total a b
  unfold scoreOrder
  grind

omit [OrderRules C] in
theorem scoreOrder_eq {a b : C} (left : isNaN a = false) (right : isNaN b = false) :
    scoreOrder a b = le b a := by
  simp [scoreOrder, left, right]

theorem sorted_numbered (scores : List C) :
    ((numbered scores).mergeSort fun a b => scoreOrder a.2 b.2).Pairwise fun a b =>
      scoreOrder a.2 b.2 = true ∧ (scoreOrder b.2 a.2 = true → a.1 < b.1) := by
  refine pairwise_stable (fun a b c => scoreOrder_trans a.2 b.2 c.2)
    (fun a b => scoreOrder_total a.2 b.2) (List.pairwise_map.1 ?_)
  rw [numbers_numbered]
  exact List.pairwise_lt_range

theorem isBest_take {scores : List C} (numbers : ∀ score ∈ scores, isNaN score = false)
    (count : Int) :
    IsBest scores count
      (((numbered scores).mergeSort fun a b => scoreOrder a.2 b.2).take count.toNat) := by
  have shuffled : ((numbered scores).mergeSort fun a b => scoreOrder a.2 b.2).Perm
    (numbered scores) := List.mergeSort_perm _ _
  have sorted := sorted_numbered scores
  generalize (numbered scores).mergeSort (fun a b => scoreOrder a.2 b.2) = order at *
  have scored {place : Nat × C} (member : place ∈ order) : scores[place.1]? = some place.2 :=
    mem_numbered.1 (shuffled.mem_iff.1 member)
  have defined {place : Nat × C} (member : place ∈ order) : isNaN place.2 = false :=
    numbers _ (List.mem_of_getElem? (scored member))
  constructor
  case length =>
    have whole : order.length = scores.length := by
      rw [shuffled.length_eq, ← List.length_map, numbers_numbered, List.length_range]
    rw [List.length_take, whole]
    omega
  case distinct =>
    have once : (order.map Prod.fst).Nodup := by
      rw [(shuffled.map Prod.fst).nodup_iff, numbers_numbered]
      exact List.nodup_range
    exact once.sublist ((List.take_sublist _ _).map _)
  case scored => exact fun place member => scored (List.mem_of_mem_take member)
  case ordered =>
    refine (sorted.take).imp_of_mem fun {a b} first second both => ?_
    have left := defined (List.mem_of_mem_take first)
    have right := defined (List.mem_of_mem_take second)
    rwa [scoreOrder_eq left right, scoreOrder_eq right left] at both
  case least =>
    intro last isLast row score there left
    have first := List.mem_of_mem_getLast? isLast
    have inside : (row, score) ∈ order := shuffled.mem_iff.2 (mem_numbered.2 there)
    have later : (row, score) ∈ order.drop count.toNat := by
      rw [← List.take_append_drop count.toNat order, List.mem_append] at inside
      exact inside.resolve_left fun taken => left (List.mem_map_of_mem taken)
    -- A place that was left comes after the last one taken, and if it scores as much it has the
    -- higher number.
    have both := sorted.rel_of_mem_take_of_mem_drop first later
    have number := defined (List.mem_of_mem_take first)
    have number' := numbers _ (List.mem_of_getElem? there)
    rw [scoreOrder_eq number number', scoreOrder_eq number' number] at both
    refine ⟨both.1, fun earlier => ?_⟩
    rw [OrderRules.lt_eq _ _ number' number]
    cases level : le last.2 score with
    | true => exact absurd (both.2 level) (by simp; omega)
    | false => rfl

end

namespace Embedding

variable [Component C R] [Numeral R]

/-- Without a positive count nothing is taken, so it makes no difference that nothing is read. -/
theorem topRows_eq {query : Embedding C} {rows : List (Embedding C)} {stored storedRows : Json R}
    (isQuery : ofStored stored = .ok query) (areRows : rowsOfStored storedRows = .ok rows)
    (count : Int) : topRows stored storedRows count = .ok (query.nearest rows count) := by
  unfold topRows
  split
  · have none : count.toNat = 0 := by omega
    rw [nearest, none, List.take_zero]
  · rw [isQuery, areRows]
    rfl

/-- The rows nearest a query are the best ones by their similarity to it: as many as are asked for
or all, from the most similar down, equal ones in the order of the rows. To ask for more goes on
where less ends. A stored query and matrix give the rows of what they are read as. -/
theorem nearest_isBest [OrderRules C] (query : Embedding C) (rows : List (Embedding C))
    (numbers : ∀ score ∈ query.similarities rows, isNaN score = false) (count : Int) :
    IsBest (query.similarities rows) count (query.nearest rows count) ∧
      (∀ more, count ≤ more → query.nearest rows count <+: query.nearest rows more) ∧
      ∀ stored storedRows : Json R, ofStored stored = .ok query →
        rowsOfStored storedRows = .ok rows →
        topRows stored storedRows count = .ok (query.nearest rows count) :=
  ⟨isBest_take numbers count, fun _ more => List.take_prefix_take_left (Int.toNat_le_toNat more),
    fun _ _ isQuery areRows => topRows_eq isQuery areRows count⟩

/-- The two best of three rows, of which two are the same: their similarities are numbers. -/
theorem nearest_isBest_of_twins :
    let query : Embedding ℚ := .replicate 1
    let rows : List (Embedding ℚ) := [.replicate (-1), .replicate 1, .replicate 1]
    (∀ score ∈ query.similarities rows, isNaN score = false) ∧
      IsBest (query.similarities rows) 2 (query.nearest rows 2) ∧
      (∀ more, 2 ≤ more → query.nearest rows 2 <+: query.nearest rows more) ∧
      ∀ stored storedRows : Json ℚ, ofStored stored = .ok query →
        rowsOfStored storedRows = .ok rows →
        topRows stored storedRows 2 = .ok (query.nearest rows 2) :=
  ⟨fun _ _ => rfl, nearest_isBest _ _ (fun _ _ => rfl) 2⟩

end Embedding

end PersonalFeed
