import Mathlib.Data.List.Forall2
import Mathlib.Data.List.Perm.Basic

/-!
Lists of computations that may fail. They succeed together when each of them does, and the first
failure is that of all.
-/

set_option autoImplicit false

namespace PersonalFeed

variable {α β γ ε : Type}

theorem ok_of_bind {result : Except ε α} {f : α → Except ε β} {value : β}
    (ended : (result >>= f) = .ok value) : ∃ first, result = .ok first ∧ f first = .ok value := by
  cases result with
  | error cause => cases ended
  | ok first => exact ⟨first, rfl, ended⟩

theorem error_of_bind {result : Except ε α} {f : α → Except ε β} {cause : ε}
    (failed : (result >>= f) = .error cause) :
    result = .error cause ∨ ∃ first, result = .ok first ∧ f first = .error cause := by
  cases result with
  | error other => exact .inl (congrArg _ (Except.error.inj failed))
  | ok first => exact .inr ⟨first, rfl, failed⟩

theorem error_of_map {result : Except ε α} {f : α → β} {cause : ε}
    (failed : result.map f = .error cause) : result = .error cause := by
  cases result with
  | error other => exact congrArg _ (Except.error.inj failed)
  | ok first => cases failed

theorem ok_of_map {result : Except ε α} {f : α → β} {value : β}
    (ended : result.map f = .ok value) : ∃ first, result = .ok first ∧ f first = value := by
  cases result with
  | error cause => cases ended
  | ok first => exact ⟨first, rfl, Except.ok.inj ended⟩

theorem ok_of_mapError {ε' : Type} {result : Except ε α} {f : ε → ε'} {value : α}
    (ended : result.mapError f = .ok value) : result = .ok value := by
  cases result with
  | error cause => cases ended
  | ok first => exact congrArg _ (Except.ok.inj ended)

theorem mapM_ok_iff (f : α → Except ε β) (xs : List α) (ys : List β) :
    xs.mapM f = .ok ys ↔ List.Forall₂ (fun x y => f x = .ok y) xs ys := by
  induction xs generalizing ys with
  | nil =>
    rw [List.mapM_nil, List.forall₂_nil_left_iff]
    exact ⟨fun same => (Except.ok.inj same).symm, fun same => same ▸ rfl⟩
  | cons x xs ih =>
    rw [List.mapM_cons, List.forall₂_cons_left_iff]
    constructor
    · intro ended
      obtain ⟨y, first, ended⟩ := ok_of_bind ended
      obtain ⟨rest, later, ended⟩ := ok_of_bind ended
      exact ⟨y, rest, first, (ih rest).1 later, (Except.ok.inj ended).symm⟩
    · rintro ⟨y, rest, first, later, rfl⟩
      rw [first, (ih rest).2 later]
      rfl

theorem getElem?_of_forall₂ {r : α → β → Prop} {xs : List α} {ys : List β}
    (related : List.Forall₂ r xs ys) {place : Nat} {x : α} (there : xs[place]? = some x) :
    ∃ y, ys[place]? = some y ∧ r x y := by
  induction related generalizing place with
  | nil => cases there
  | cons first _ ih =>
    cases place with
    | zero =>
      cases there
      exact ⟨_, rfl, first⟩
    | succ place => exact ih there

theorem mem_of_mapM {f : α → Except ε β} {xs : List α} {ys : List β} (ended : xs.mapM f = .ok ys)
    {y : β} (member : y ∈ ys) : ∃ x ∈ xs, f x = .ok y := by
  have related := (mapM_ok_iff f xs ys).1 ended
  clear ended
  induction related with
  | nil => cases member
  | @cons x first xs ys head _ ih =>
    rcases List.mem_cons.1 member with rfl | member
    · exact ⟨x, List.mem_cons_self, head⟩
    · obtain ⟨x, inside, found⟩ := ih member
      exact ⟨x, List.mem_cons_of_mem _ inside, found⟩

theorem exists_of_mapM {f : α → Except ε β} {xs : List α} {ys : List β}
    (ended : xs.mapM f = .ok ys) {x : α} (member : x ∈ xs) : ∃ y ∈ ys, f x = .ok y := by
  have related := (mapM_ok_iff f xs ys).1 ended
  clear ended
  induction related with
  | nil => cases member
  | @cons head first xs ys here _ ih =>
    rcases List.mem_cons.1 member with rfl | member
    · exact ⟨first, List.mem_cons_self, here⟩
    · obtain ⟨y, inside, found⟩ := ih member
      exact ⟨y, List.mem_cons_of_mem _ inside, found⟩

theorem exists_of_mapM_error {f : α → Except ε β} {xs : List α} {cause : ε}
    (failed : xs.mapM f = .error cause) : ∃ x ∈ xs, f x = .error cause := by
  induction xs with
  | nil => cases failed
  | cons x rest ih =>
    rw [List.mapM_cons] at failed
    rcases error_of_bind failed with first | ⟨y, -, failed⟩
    · exact ⟨x, List.mem_cons_self, first⟩
    · rcases error_of_bind failed with later | ⟨ys, -, failed⟩
      · obtain ⟨other, inside, stopped⟩ := ih later
        exact ⟨other, List.mem_cons_of_mem _ inside, stopped⟩
      · cases failed

/-- What the computations keep of each item is kept of all, in their order. -/
theorem map_of_mapM {f : α → Except ε β} {g : α → γ} {h : β → γ}
    (keeps : ∀ x y, f x = .ok y → h y = g x) {xs : List α} {ys : List β}
    (ended : xs.mapM f = .ok ys) : ys.map h = xs.map g := by
  have related := (mapM_ok_iff f xs ys).1 ended
  clear ended
  induction related with
  | nil => rfl
  | cons first _ ih => rw [List.map_cons, List.map_cons, keeps _ _ first, ih]

theorem mapM_perm {f : α → Except ε β} {xs xs' : List α} {ys : List β} (same : xs'.Perm xs)
    (ended : xs.mapM f = .ok ys) : ∃ ys', xs'.mapM f = .ok ys' ∧ ys'.Perm ys := by
  obtain ⟨ys', each, same⟩ := List.perm_comp_forall₂ same ((mapM_ok_iff f xs ys).1 ended)
  exact ⟨ys', (mapM_ok_iff f xs' ys').2 each, same⟩

theorem ok_of_forall₂ {f : α → Except ε β} {xs : List α} {ys : List β}
    (related : List.Forall₂ (fun x y => f x = .ok y) xs ys) {x : α} (member : x ∈ xs) :
    ∃ y, f x = .ok y := by
  induction related with
  | nil => cases member
  | cons head _ ih =>
    rcases List.mem_cons.1 member with rfl | member
    · exact ⟨_, head⟩
    · exact ih member

theorem mapM_ok_map (f : α → Except ε β) (g : α → β) (xs : List α)
    (each : ∀ x ∈ xs, f x = .ok (g x)) :
    xs.mapM f = .ok (xs.map g) := by
  rw [mapM_ok_iff, List.forall₂_map_right_iff, List.forall₂_same]
  exact each

theorem bind_isOk {result : Except ε α} {f : α → Except ε β} (first : ∃ value, result = .ok value)
    (next : ∀ value, ∃ last, f value = .ok last) : ∃ last, (result >>= f) = .ok last := by
  obtain ⟨value, rfl⟩ := first
  exact next value

theorem bind_ne_error {result : Except ε α} {f : α → Except ε β} {cause : ε}
    (first : result ≠ .error cause) (next : ∀ value, f value ≠ .error cause) :
    (result >>= f) ≠ .error cause := by
  cases result with
  | error other => exact fun same => first (congrArg _ (Except.error.inj same))
  | ok value => exact next value

theorem forall₂_of_ok {f : α → Except ε β} {xs : List α} (each : ∀ x ∈ xs, ∃ y, f x = .ok y) :
    ∃ ys, List.Forall₂ (fun x y => f x = .ok y) xs ys := by
  induction xs with
  | nil => exact ⟨[], .nil⟩
  | cons x rest ih =>
    obtain ⟨y, first⟩ := each x List.mem_cons_self
    obtain ⟨ys, later⟩ := ih fun other member => each other (List.mem_cons_of_mem x member)
    exact ⟨y :: ys, .cons first later⟩

theorem mapM_isOk {f : α → Except ε β} {xs : List α} (each : ∀ x ∈ xs, ∃ y, f x = .ok y) :
    ∃ ys, xs.mapM f = .ok ys := by
  obtain ⟨ys, related⟩ := forall₂_of_ok each
  exact ⟨ys, (mapM_ok_iff f xs ys).2 related⟩

end PersonalFeed
