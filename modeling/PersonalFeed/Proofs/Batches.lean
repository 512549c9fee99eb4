import PersonalFeed.Feed.Candidates
import PersonalFeed.Proofs.Results

/-!
Batches of posts. The rows of a batch are those posts that have a vector, and every score goes back
to the place that its row came from, whatever places are left out. So a batch gives every post what
the post would get alone.
-/

set_option autoImplicit false

namespace PersonalFeed

open Scalar

variable {C R α β : Type}

/-- Values that depend on their places only are found at these places, and nowhere else. -/
theorem getElem?_scatter (g : Nat → α) (places : List Nat) (row : List α) (place : Nat) :
    (scatter row places (places.map g))[place]? =
      if place ∈ places ∧ place < row.length then some (g place) else row[place]? := by
  -- A place may be written again later, but always with the value that is its own.
  induction places generalizing row with
  | nil => simp [scatter]
  | cons first rest ih =>
    have step : scatter row (first :: rest) ((first :: rest).map g) =
        scatter (row.set first (g first)) rest (rest.map g) := rfl
    rw [step, ih, List.length_set, List.getElem?_set]
    grind

theorem mem_filledPlaces {entries : List (Option α)} {place : Nat} :
    place ∈ filledPlaces entries ↔ ∃ entry, entries[place]? = some (some entry) := by
  rw [filledPlaces, List.mem_filter, List.mem_range]
  constructor
  · rintro ⟨-, filled⟩
    obtain ⟨entry, there⟩ := Option.isSome_iff_exists.1 filled
    exact ⟨entry, Option.join_eq_some_iff.1 there⟩
  · rintro ⟨entry, there⟩
    exact ⟨(List.getElem?_eq_some_iff.1 there).1, by rw [there]; rfl⟩

theorem map_compacted (entries : List (Option α)) (f : α → β) (z : β) :
    ((filledPlaces entries).filterMap fun place => entries[place]?.join).map f =
      (filledPlaces entries).map fun place => (entries[place]?.join.map f).getD z := by
  rw [List.map_filterMap, ← List.filterMap_eq_map]
  refine List.filterMap_congr fun place member => ?_
  obtain ⟨entry, there⟩ := mem_filledPlaces.1 member
  rw [Function.comp_apply, there]
  rfl

theorem scatter_compacted (entries : List (Option α)) (f : α → β) (z : β) :
    scatter (List.replicate entries.length z) (filledPlaces entries)
        (((filledPlaces entries).filterMap fun place => entries[place]?.join).map f) =
      entries.map fun entry => (entry.map f).getD z := by
  -- Once the compacted row is indexed by places again, both sides can be compared place by place.
  refine List.ext_getElem? fun place => ?_
  rw [map_compacted entries f z, getElem?_scatter, List.length_replicate, List.getElem?_map,
    List.getElem?_replicate]
  cases there : entries[place]? with
  | none =>
    have outside := List.getElem?_eq_none_iff.1 there
    rw [if_neg fun inside => absurd inside.2 (by omega), if_neg (by omega)]
    rfl
  | some entry =>
    have inside := (List.getElem?_eq_some_iff.1 there).1
    rw [if_pos inside]
    cases entry with
    | none =>
      rw [if_neg]
      · rfl
      · rintro ⟨member, -⟩
        obtain ⟨entry, filled⟩ := mem_filledPlaces.1 member
        cases there.symm.trans filled
    | some entry =>
      rw [if_pos ⟨mem_filledPlaces.2 ⟨entry, there⟩, inside⟩]
      rfl

theorem zip_zip_map {γ : Type} (f : α × β → γ) (xs : List α) (ys : List β) :
    xs.zip (ys.zip ((xs.zip ys).map f)) = (xs.zip ys).map fun pair => (pair.1, pair.2, f pair) := by
  induction xs generalizing ys with
  | nil => rfl
  | cons x xs ih =>
    cases ys with
    | nil => rfl
    | cons y ys => exact congrArg ((x, y, f (x, y)) :: ·) (ih ys)

theorem length_of_readVectors {vectors : List (Option (Tensor C))}
    {read : List (Option (Embedding C))}
    (ended : (readVectors vectors : Except (Fault R) _) = .ok read) :
    read.length = vectors.length := by
  unfold readVectors at ended
  dsimp only at ended
  split at ended
  · cases ended
    exact List.length_map _
  · obtain ⟨rows, _, ended⟩ := ok_of_bind ended
    split at ended
    · exact (List.Forall₂.length_eq ((mapM_ok_iff _ _ _).1 ended)).symm
    · cases ended

variable [Score R] [Component C R]

theorem batchSimilarities_eq (interest : Embedding C) (found : List (Neighbour C R))
    {posts : List (Post C)} {vectors : List (Option (Embedding C))}
    (same : vectors.length = posts.length) :
    batchSimilarities interest found posts vectors =
      (posts.zip vectors).map fun pair => similarityOf interest found pair.1 pair.2 := by
  unfold batchSimilarities
  dsimp only
  rw [Embedding.similarities_eq, List.map_map, ← same, scatter_compacted,
    ← List.map_prod_left_eq_zip, List.zip_map_right, List.map_map]
  refine List.map_congr_left fun pair _ => ?_
  obtain ⟨post, vector⟩ := pair
  cases vector with
  | some v => rfl
  | none =>
    rw [similarityOf]
    cases near : neighbour? found post.id <;> simp [near]

theorem candidatesOf_eq (config : Config R) (now : Timestamp) (reader : ReaderContext C R)
    (found : List (Neighbour C R)) (posts : List (Post C)) :
    candidatesOf config now reader found posts =
      (readVectors (posts.map (vectorOf found)) >>= fun vectors =>
        (posts.zip vectors).mapM fun pair =>
          candidateOf config now reader found pair.1 pair.2) := by
  unfold candidatesOf
  cases read : (readVectors (posts.map (vectorOf found)) : Except (Fault R) _) with
  | error cause => rfl
  | ok vectors =>
    have same : vectors.length = posts.length := by
      rw [length_of_readVectors read, List.length_map]
    change List.mapM _ (posts.zip (vectors.zip _)) = List.mapM _ (posts.zip vectors)
    rw [batchSimilarities_eq reader.interest found same]
    rw [zip_zip_map, List.mapM_map]
    rfl

end PersonalFeed
