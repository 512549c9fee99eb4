import PersonalFeed.Feed.Candidates
import PersonalFeed.Proofs.Results
import PersonalFeed.Service.Feed

/-!
Reading vectors. A flat row of numbers is read whatever its length, rows of embeddings are read back
as they were, and so are the hits of the index.
-/

set_option autoImplicit false

namespace PersonalFeed

variable {C R : Type}

namespace Tensor

variable {α β ε : Type}

theorem flatRow?_ofList (xs : List α) : (ofList xs).flatRow? = some xs := by
  rw [ofList, flatRow?]
  induction xs with
  | nil => rfl
  | cons x rest ih => rw [List.map_cons, List.mapM_cons, ih]; rfl

theorem values_ofList (xs : List α) : (ofList xs).values = xs := by
  rw [ofList, values]
  induction xs with
  | nil => rfl
  | cons x rest ih => rw [List.map_cons, rowValues, ih]; rfl

theorem rowShape?_of_all {shape : List Nat} {entries : List (Tensor α)} (some : entries ≠ [])
    (same : ∀ entry ∈ entries, entry.shape? = .some shape) :
    rowShape? entries = .some (entries.length :: shape) := by
  induction entries with
  | nil => exact absurd rfl some
  | cons entry rest ih =>
    have first := same entry List.mem_cons_self
    cases rest with
    | nil =>
      rw [rowShape?, first]
      rfl
    | cons second rest =>
      have later := ih (List.cons_ne_nil _ _) fun other member =>
        same other (List.mem_cons_of_mem _ member)
      rw [rowShape?, first, later]
      · simp
      · exact fun empty => by cases empty

theorem shape?_ofList (xs : List α) : (ofList xs).shape? = some [xs.length] := by
  cases xs with
  | nil => rfl
  | cons x rest =>
    have scalars : ∀ entry ∈ (x :: rest).map Tensor.scalar, entry.shape? = some [] := by
      intro entry member
      obtain ⟨y, _, rfl⟩ := List.mem_map.1 member
      rfl
    rw [ofList, shape?, rowShape?_of_all (by simp) scalars, List.length_map]

theorem map_ofList (f : α → β) (xs : List α) : (ofList xs).map f = ofList (xs.map f) := by
  have row : mapRow f (xs.map .scalar) = (xs.map f).map .scalar := by
    induction xs with
    | nil => rfl
    | cons x rest ih => rw [List.map_cons, mapRow, ih]; rfl
  rw [ofList, map, row]
  rfl

theorem convert_ofList {f : α → Except ε β} {xs : List α} {ys : List β}
    (each : List.Forall₂ (fun x y => f x = .ok y) xs ys) :
    (ofList xs).convert f = .ok (ofList ys) := by
  have row : convertRow f (xs.map .scalar) = .ok (ys.map .scalar) := by
    induction each with
    | nil => rfl
    | cons first _ ih =>
      rw [List.map_cons, convertRow, convert, first, ih]
      rfl
  rw [ofList, convert, row]
  rfl

theorem exists_of_convert_ofList {f : α → Except ε β} {xs : List α} {t : Tensor β}
    (made : (ofList xs).convert f = .ok t) : ∃ ys, t = ofList ys ∧ ys.length = xs.length := by
  obtain ⟨converted, row, rfl⟩ := ok_of_map made
  clear made
  induction xs generalizing converted with
  | nil =>
    cases row
    exact ⟨[], rfl, rfl⟩
  | cons x rest ih =>
    obtain ⟨first, one, row⟩ := ok_of_bind row
    obtain ⟨later, others, row⟩ := ok_of_bind row
    obtain ⟨y, -, rfl⟩ := ok_of_map one
    obtain ⟨ys, same, length⟩ := ih later others
    cases row
    cases same
    exact ⟨y :: ys, rfl, congrArg (· + 1) length⟩

end Tensor

namespace Json

variable [Numeral R]

omit [Numeral R] in
theorem nesting_of_flat {items : List (Json R)}
    (flat : ∀ item ∈ items, ∀ inner, item ≠ .array inner) :
    (Json.array items).nesting = Tensor.ofList items := by
  rw [nesting, Tensor.ofList]
  refine congrArg Tensor.row ?_
  induction items with
  | nil => rfl
  | cons item rest ih =>
    rw [nestingRow, ih fun other member => flat other (List.mem_cons_of_mem _ member),
      List.map_cons]
    cases item with
    | array inner => exact absurd rfl (flat _ List.mem_cons_self inner)
    | null | bool | int | real | string | object => rfl

theorem nesting_numbers {items : List (Json R)} {numbers : List R}
    (each : List.Forall₂ (fun x r => x.toReal = .ok r) items numbers) :
    (Json.array items).nesting = Tensor.ofList items := by
  refine nesting_of_flat ?_
  rintro _ member inner rfl
  obtain ⟨number, -, read⟩ := exists_of_mapM ((mapM_ok_iff Json.toReal _ _).2 each) member
  cases read

theorem toComponent_of_toReal {value : Json R} {x : R} (read : value.toReal = .ok x) :
    value.toComponent = .ok x := by
  cases value with
  | null => cases read
  | bool | int | real | string | array | object => exact read

theorem toTensor_numbers {items : List (Json R)} {numbers : List R}
    (each : List.Forall₂ (fun x r => x.toReal = .ok r) items numbers) :
    (Json.array items).toTensor = .ok (Tensor.ofList numbers) := by
  rw [toTensor, nesting_numbers each, Tensor.shape?_ofList]
  exact Tensor.convert_ofList (each.imp fun _ _ => toComponent_of_toReal)

end Json

namespace Embedding

theorem ofArray?_toList (v : Embedding C) : ofArray? v.toList.toArray = some v := by
  obtain ⟨components, size⟩ := v
  rw [toList, Array.toArray_toList, ofArray?, dif_pos size]

theorem flatRow?_toTensor (v : Embedding C) :
    (v.toTensor.flatRow?.bind fun row => ofArray? row.toArray) = some v := by
  rw [toTensor, Tensor.flatRow?_ofList]
  exact ofArray?_toList v

theorem shape?_toTensor (v : Embedding C) : v.toTensor.shape? = some [vectorWidth] := by
  rw [toTensor, Tensor.shape?_ofList, length_toList]

theorem ofTensor_toTensor (v : Embedding C) :
    (ofTensor v.toTensor : Except (Fault R) (Embedding C)) = .ok v := by
  rw [ofTensor, flatRow?_toTensor]

theorem rowsOfTensor_embeddings {vectors : List (Embedding C)} (some : vectors ≠ []) :
    (rowsOfTensor (.row (vectors.map toTensor)) : Except (Fault R) (List (Embedding C))) =
      .ok vectors := by
  have shape : (Tensor.row (vectors.map toTensor)).shape? = .some [vectors.length, vectorWidth] := by
    rw [Tensor.shape?, Tensor.rowShape?_of_all (by simpa using some), List.length_map]
    intro entry member
    obtain ⟨v, _, rfl⟩ := List.mem_map.1 member
    exact shape?_toTensor v
  have rows : ((vectors.map toTensor).mapM fun row : Tensor C =>
      row.flatRow?.bind fun row => ofArray? row.toArray) = .some vectors := by
    clear shape some
    induction vectors with
    | nil => rfl
    | cons v rest ih => rw [List.map_cons, List.mapM_cons, flatRow?_toTensor, ih]; rfl
  have count : vectors.length ≠ 0 := mt List.length_eq_zero_iff.1 some
  rw [rowsOfTensor, shape]
  dsimp only [Tensor.rows]
  rw [rows, if_neg (by simp [vectorWidth, Ne.symm count])]
  exact if_neg (by simpa using some)

end Embedding

theorem Hit.neighbour_toTensor (id : Text) (score : R) (v : Embedding C) :
    (⟨id, score, some v.toTensor⟩ : Hit C R).neighbour = .ok ⟨id, score, some v⟩ := by
  unfold neighbour embedding
  dsimp only
  rw [Embedding.shape?_toTensor, if_neg (by simp), Embedding.flatRow?_toTensor]
  rfl

theorem Index.neighbour_report [Component C R] [Rooted R] (query : Embedding C) (point : Point C) :
    (report query point : Hit C R).neighbour =
      .ok ⟨point.id, score query point.direction, some point.direction⟩ :=
  Hit.neighbour_toTensor ..

theorem readVectors_tensors (vectors : List (Option (Embedding C))) :
    (readVectors (vectors.map fun v => v.map Embedding.toTensor) :
      Except (Fault R) (List (Option (Embedding C)))) = .ok vectors := by
  have present : (vectors.map fun v => v.map Embedding.toTensor).filterMap id =
      (vectors.filterMap id).map Embedding.toTensor := by
    rw [List.filterMap_map, List.map_filterMap]
    rfl
  unfold readVectors
  dsimp only
  rw [present]
  cases there : vectors.filterMap id with
  | nil =>
    -- Without a single vector there is nothing to read, and the list holds nothing but gaps.
    have all : ∀ v ∈ vectors, v = none := by simpa using there
    refine congrArg Except.ok ?_
    rw [List.map_map]
    exact (List.map_congr_left fun v member => (all v member).symm).trans (List.map_id _)
  | cons v rest =>
    rw [if_neg (by simp), Embedding.rowsOfTensor_embeddings (List.cons_ne_nil v rest)]
    change (if (v :: rest).length = _ then _ else _) = _
    rw [if_pos (by rw [List.length_map]), mapM_ok_iff, List.forall₂_map_left_iff, List.forall₂_same]
    intro w _
    cases w with
    | none => rfl
    | some w =>
      change (some <$> (Embedding.ofTensor w.toTensor : Except (Fault R) _)) = _
      rw [Embedding.ofTensor_toTensor]
      rfl

theorem readVectors_embeddings (vectors : List (Embedding C)) :
    (readVectors (vectors.map fun v => some v.toTensor) :
      Except (Fault R) (List (Option (Embedding C)))) = .ok (vectors.map some) := by
  rw [← readVectors_tensors (vectors.map some), List.map_map]
  rfl

/-- A stored vector is read as an embedding if it has the width of one, and as none otherwise. -/
theorem readInterest_numbers [Score R] [Component C R] {components : List (Json R)}
    {numbers : List R} (each : List.Forall₂ (fun x r => x.toReal = .ok r) components numbers) :
    (Service.readInterest (.array components) : Except (Fault R) (Option (Embedding C))) =
      .ok (Embedding.ofArray? (numbers.map (Component.narrow : R → C)).toArray) := by
  have read : (Embedding.componentsOf (.array components) : Except (Fault R) (Tensor C)) =
      .ok (.ofList (numbers.map Component.narrow)) := by
    rw [Embedding.componentsOf, Json.toTensor_numbers each]
    exact congrArg Except.ok (Tensor.map_ofList _ _)
  have whole : (Embedding.ofStored (.array components) : Except (Fault R) (Embedding C)) =
      Embedding.ofTensor (.ofList (numbers.map Component.narrow)) := by
    rw [Embedding.ofStored, read]
    rfl
  rw [Service.readInterest, whole, Embedding.ofTensor, Tensor.flatRow?_ofList, Option.bind_some]
  cases Embedding.ofArray? (numbers.map (Component.narrow : R → C)).toArray with
  | some v => rfl
  | none =>
    rw [Tensor.shape?_ofList]

end PersonalFeed
