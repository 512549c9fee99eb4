import PersonalFeed.Proofs.Pages.Arrival

/-!
Signals post by post. The candidate that a post becomes is a function of the post, of what the index
reported about it, and of the reader; which other posts it is compared beside is of no account. Only
a stored embedding whose entries are lists themselves stops the comparison, and then of all posts at
once.
-/

set_option autoImplicit false

namespace PersonalFeed

open Scalar

variable {C R : Type}

def PostRow.IsFlat (row : PostRow R) : Prop :=
  ∀ entries, row.embedding = some entries → ∀ entry ∈ entries, ∀ items, entry ≠ .array items

/-- The vector of a post: what the index reported, or else the stored one. -/
def Post.vector? (post : Post C) (own : Option (Neighbour C R)) : Option (Embedding C) :=
  match own.bind (·.vector) with
  | some v => some v
  | none => post.embedding.bind fun t => t.flatRow?.bind fun xs => Embedding.ofArray? xs.toArray

def Post.Fits (post : Post C) (own : Option (Neighbour C R)) : Prop :=
  own.bind (·.vector) = none → ∀ t, post.embedding = some t → ∃ v : Embedding C, t = v.toTensor

def Fault.IsShape : Fault R → Prop
  | .dimension _ => True
  | .broken cause => cause = .ragged
  | _ => False

theorem vectorOf_eq {found : List (Neighbour C R)} {post : Post C}
    (fits : post.Fits (neighbour? found post.id)) :
    vectorOf found post = (post.vector? (neighbour? found post.id)).map Embedding.toTensor := by
  unfold vectorOf Post.vector?
  cases near : (neighbour? found post.id).bind (·.vector) with
  | some v => rfl
  | none =>
    cases stored : post.embedding with
    | none => rfl
    | some t =>
      obtain ⟨v, rfl⟩ := fits near t stored
      exact (congrArg (Option.map Embedding.toTensor) v.flatRow?_toTensor).symm

theorem fits_of_vectorOf {found : List (Neighbour C R)} {post : Post C}
    {vector : Option (Embedding C)} (read : vectorOf found post = vector.map Embedding.toTensor) :
    post.Fits (neighbour? found post.id) := by
  intro none t stored
  rw [vectorOf, none] at read
  dsimp only at read
  obtain ⟨v, -, same⟩ := Option.map_eq_some_iff.1 (read.symm.trans stored)
  exact ⟨v, same.symm⟩

/-- The stored embedding of a flat row is a vector, unless the row has none of that width. -/
theorem PostRow.fits_of_isFlat [Numeral R] [Component C R] {row : PostRow R} (flat : row.IsFlat)
    {post : Post C} (read : row.post = .ok post) (own : Option (Neighbour C R)) :
    post.Fits own := by
  obtain ⟨embedding, stored, rfl⟩ := ok_of_map read
  rintro - t rfl
  unfold storedEmbedding at stored
  split at stored
  · cases stored
  · rename_i entries given
    split at stored
    · rename_i wide
      obtain ⟨numbers, converted, same⟩ := ok_of_map stored
      cases same
      unfold Json.toTensor at converted
      dsimp only at converted
      rw [Json.nesting_of_flat (flat entries given)] at converted
      split at converted
      · obtain ⟨ys, rfl, length⟩ := Tensor.exists_of_convert_ofList converted
        -- A flat row of the right width is converted entry by entry, which keeps the width.
        have size : (ys.map (Component.narrow : R → C)).toArray.size = vectorWidth := by
          simp [length, wide]
        exact ⟨⟨_, size⟩, Tensor.map_ofList _ _⟩
      · cases converted
    · cases stored

section

variable {vectors : List (Option (Tensor C))} {cause : Fault R}

theorem Embedding.isShape_of_ofTensor {t : Tensor C}
    (failed : (ofTensor t : Except (Fault R) (Embedding C)) = .error cause) : cause.IsShape := by
  unfold ofTensor at failed
  split at failed
  · cases failed
  · split at failed <;> cases failed
    · trivial
    · rfl

theorem Embedding.isShape_of_rowsOfTensor {t : Tensor C}
    (failed : (rowsOfTensor t : Except (Fault R) (List (Embedding C))) = .error cause) :
    cause.IsShape := by
  unfold rowsOfTensor at failed
  split at failed
  · cases failed
    rfl
  · split at failed
    · cases failed
    · split at failed
      · split at failed <;> cases failed
        trivial
      · cases failed
        trivial

theorem isShape_of_readVectors
    (failed : (readVectors vectors : Except (Fault R) (List (Option (Embedding C)))) =
      .error cause) : cause.IsShape := by
  unfold readVectors at failed
  dsimp only at failed
  split at failed
  · cases failed
  · rcases error_of_bind failed with failed | ⟨rows, -, failed⟩
    · exact Embedding.isShape_of_rowsOfTensor failed
    · split at failed
      · obtain ⟨vector, -, failed⟩ := exists_of_mapM_error failed
        cases vector with
        | none => cases failed
        | some t => exact Embedding.isShape_of_ofTensor (error_of_map failed)
      · cases failed
        rfl

end

variable [Score R] [Component C R]

def Post.candidate (config : Config R) (now : Timestamp) (reader : ReaderContext C R)
    (post : Post C) (own : Option (Neighbour C R)) : Except (Fault R) (Candidate C R) :=
  candidateWith config now reader post (post.vector? own) <|
    match post.vector? own with
    | some v => Component.widen (reader.interest.cosine v)
    | none => (own.map (·.score)).getD zero

section

variable {config : Config R} {now : Timestamp} {reader : ReaderContext C R}
variable {found : List (Neighbour C R)} {posts : List (Post C)} {candidates : List (Candidate C R)}

theorem candidatesOf_eq_mapM (fits : ∀ post ∈ posts, post.Fits (neighbour? found post.id)) :
    candidatesOf config now reader found posts =
      posts.mapM fun post => post.candidate config now reader (neighbour? found post.id) := by
  have read : posts.map (vectorOf found) =
      (posts.map fun post => post.vector? (neighbour? found post.id)).map fun v =>
        v.map Embedding.toTensor := by
    rw [List.map_map]
    exact List.map_congr_left fun post member => vectorOf_eq (fits post member)
  rw [candidatesOf_eq, readVectors_ok_iff.2 read]
  change List.mapM _ (posts.zip _) = _
  rw [← List.map_prod_left_eq_zip, List.mapM_map]
  rfl

omit [Score R] [Component C R] in
theorem fits_of_readVectors {vectors : List (Option (Embedding C))}
    (read : (readVectors (posts.map (vectorOf found)) : Except (Fault R) _) = .ok vectors) :
    ∀ post ∈ posts, post.Fits (neighbour? found post.id) := by
  intro post member
  have listed := List.mem_map_of_mem (f := vectorOf found) member
  rw [readVectors_ok_iff.1 read] at listed
  obtain ⟨vector, -, same⟩ := List.mem_map.1 listed
  exact fits_of_vectorOf same.symm

theorem fits_of_candidatesOf (made : candidatesOf config now reader found posts = .ok candidates) :
    ∀ post ∈ posts, post.Fits (neighbour? found post.id) := by
  obtain ⟨vectors, read, -⟩ := ok_of_bind made
  exact fits_of_readVectors read

omit [Component C R] in
theorem not_isShape_of_privacyScore {muted : List (Json R)} {post : Post C} {cause : Fault R}
    (failed : privacyScore? muted post = .error cause) : ¬ cause.IsShape := by
  unfold privacyScore? at failed
  dsimp only at failed
  induction muted with
  | nil => cases failed
  | cons keyword rest ih =>
    cases keyword with
    | string text =>
      simp only [privacyScore?.search] at failed
      split at failed
      · cases failed
      · exact ih failed
    | null | bool | int | real | array | object =>
      simp only [privacyScore?.search] at failed
      split at failed
      · exact ih failed
      · cases failed
        rintro ⟨⟩

omit [Component C R] in
theorem not_isShape_of_candidateWith {post : Post C} {vector : Option (Embedding C)}
    {similarity : R} {cause : Fault R}
    (failed : candidateWith config now reader post vector similarity = .error cause) :
    ¬ cause.IsShape := by
  rcases error_of_bind failed with failed | ⟨days, -, failed⟩
  · unfold daysSinceSeen at failed
    split at failed
    · cases failed
    · cases failed
      rintro ⟨⟩
    · dsimp only at failed
      split at failed <;> cases failed
  · rcases error_of_bind failed with failed | ⟨temporal, -, failed⟩
    · have failed := error_of_map failed
      unfold rateOf at failed
      dsimp only at failed
      split at failed <;> cases failed
      exact id
    · rcases error_of_bind failed with failed | ⟨privacy, -, failed⟩
      · exact not_isShape_of_privacyScore failed
      · cases failed

theorem shapes_stop_iff :
    (∃ cause, candidatesOf config now reader found posts = .error cause ∧ cause.IsShape) ↔
      ∃ post ∈ posts, ¬ post.Fits (neighbour? found post.id) := by
  constructor
  · rintro ⟨cause, failed, shape⟩
    -- Were there no misfit, the cause would be that of a single post, and none of these is a shape.
    by_contra none
    have fits : ∀ post ∈ posts, post.Fits (neighbour? found post.id) :=
      fun post member => by_contra fun misfit => none ⟨post, member, misfit⟩
    rw [candidatesOf_eq_mapM fits] at failed
    obtain ⟨post, -, failed⟩ := exists_of_mapM_error failed
    exact not_isShape_of_candidateWith failed shape
  · rintro ⟨post, member, misfit⟩
    cases read : (readVectors (posts.map (vectorOf found)) : Except (Fault R) _) with
    | error cause =>
      refine ⟨cause, ?_, isShape_of_readVectors read⟩
      rw [candidatesOf, read]
      rfl
    | ok vectors => exact absurd (fits_of_readVectors read post member) misfit

end

/-- What a candidate takes from its post, from what the index reported about it, and from the
interest of the reader. -/
structure Candidate.IsMadeOf (c : Candidate C R) (interest : Embedding C) (post : Post C)
    (own : Option (Neighbour C R)) : Prop where
  same : c.post = post
  vector : c.vector = post.vector? own
  near : ∀ v, post.vector? own = some v → c.similarity = Component.widen (interest.cosine v)
  scored : post.vector? own = none → ∀ neighbour, own = some neighbour →
    c.similarity = neighbour.score

theorem isMadeOf_of_candidate {config : Config R} {now : Timestamp} {reader : ReaderContext C R}
    {post : Post C} {own : Option (Neighbour C R)} {c : Candidate C R}
    (made : post.candidate config now reader own = .ok c) :
    c.IsMadeOf reader.interest post own := by
  obtain ⟨days, -, made⟩ := ok_of_bind made
  obtain ⟨temporal, -, made⟩ := ok_of_bind made
  obtain ⟨privacy, -, made⟩ := ok_of_bind made
  cases made
  refine ⟨rfl, rfl, fun v some => ?_, fun none neighbour near => ?_⟩
  · dsimp only
    rw [some]
  · dsimp only
    rw [none, near]
    rfl

/-- Candidates of a batch are made post by post: each of its own post, of what the index reported
about that one and of the reader, so that it is the same in every batch that has the post. No shape
is in the way unless the index left out a post whose stored embedding is not flat. -/
theorem candidatesOf_post_by_post (config : Config R) (now : Timestamp) (reader : ReaderContext C R)
    (found : List (Neighbour C R)) (posts : List (Post C)) :
    ((∃ cause, candidatesOf config now reader found posts = .error cause ∧ cause.IsShape) ↔
      ∃ post ∈ posts, ¬ post.Fits (neighbour? found post.id)) ∧
    (∀ post ∈ posts, ∀ row : PostRow R, row.post = .ok post → row.IsFlat →
      post.Fits (neighbour? found post.id)) ∧
    ((∀ post ∈ posts, post.Fits (neighbour? found post.id)) →
      candidatesOf config now reader found posts =
        posts.mapM fun post => post.candidate config now reader (neighbour? found post.id)) ∧
    ∀ candidates, candidatesOf config now reader found posts = .ok candidates →
      List.Forall₂ (fun post c =>
        Candidate.IsMadeOf c reader.interest post (neighbour? found post.id)) posts candidates ∧
      ∀ found' posts' candidates', candidatesOf config now reader found' posts' = .ok candidates' →
        ∀ (place place' : Nat) (post : Post C), posts[place]? = some post →
          posts'[place']? = some post → neighbour? found' post.id = neighbour? found post.id →
            candidates'[place']? = candidates[place]? := by
  -- Both statements about a batch that led to candidates rest on this relation of its members.
  have each {found : List (Neighbour C R)} {posts : List (Post C)}
      {candidates : List (Candidate C R)}
      (made : candidatesOf config now reader found posts = .ok candidates) :
      List.Forall₂ (fun post c =>
        post.candidate config now reader (neighbour? found post.id) = .ok c) posts candidates :=
    (mapM_ok_iff _ _ _).1 (candidatesOf_eq_mapM (fits_of_candidatesOf made) ▸ made)
  refine ⟨shapes_stop_iff, fun post _ row read flat => PostRow.fits_of_isFlat flat read _,
    candidatesOf_eq_mapM, fun candidates made => ⟨?_, ?_⟩⟩
  · exact (each made).imp fun _ _ => isMadeOf_of_candidate
  · intro found' posts' candidates' made' place place' post there there' same
    obtain ⟨c, first, own⟩ := getElem?_of_forall₂ (each made) there
    obtain ⟨c', second, own'⟩ := getElem?_of_forall₂ (each made') there'
    rw [same] at own'
    cases own.symm.trans own'
    rw [first, second]

/-- A post whose stored embedding is a column of lists stops the batch that it is in. Without the
embedding it is scored by the index, beside a post that is compared. -/
theorem candidatesOf_post_by_post_of_nested :
    let config : Config ℚ := (Service.standard "discovery" ⟨0, 0⟩).config
    let reader : ReaderContext ℚ ℚ := ⟨.replicate 1, [], .empty, []⟩
    let found : List (Neighbour ℚ ℚ) := [⟨"first", 1 / 2, none⟩, ⟨"second", 1, some (.replicate 1)⟩]
    let nested : Tensor ℚ := .row (List.replicate vectorWidth (.row [.scalar 1]))
    let post (id : Text) (embedding : Option (Tensor ℚ)) : Post ℚ :=
      ⟨id, "bob", "hello", ⟨0, 0⟩, 0, 0, [], none, none, none, embedding⟩
    (∃ cause, candidatesOf config ⟨0, 0⟩ reader found
        [post "first" (some nested), post "second" none] = .error cause ∧ cause.IsShape) ∧
      ∃ c d, candidatesOf config ⟨0, 0⟩ reader found [post "first" none, post "second" none] =
        .ok [c, d] ∧ c.similarity = 1 / 2 ∧ d.vector = some (.replicate 1) := by
  intro config reader found nested post
  have misfit : ¬ (post "first" (some nested)).Fits (neighbour? found "first") := by
    intro fits
    obtain ⟨v, same⟩ := fits rfl nested rfl
    have flat := v.flatRow?_toTensor
    rw [← same] at flat
    cases flat
  have fits : ∀ p ∈ [post "first" none, post "second" none], p.Fits (neighbour? found p.id) := by
    intro p member none t stored
    rcases List.mem_pair.1 member with rfl | rfl <;> cases stored
  have stopped := (candidatesOf_post_by_post config ⟨0, 0⟩ reader found
    [post "first" (some nested), post "second" none]).1.2 ⟨_, List.mem_cons_self, misfit⟩
  obtain ⟨-, -, single, made⟩ := candidatesOf_post_by_post config ⟨0, 0⟩ reader found
    [post "first" none, post "second" none]
  have each (p : Post ℚ) :
      ∃ c, p.candidate config ⟨0, 0⟩ reader (neighbour? found p.id) = .ok c :=
    candidateOf_isOk Service.standard_isSound.accepted ⟨0, 0⟩
      (fun _ member => absurd member List.not_mem_nil)
      (fun _ member => absurd member List.not_mem_nil) found p _
  obtain ⟨c, first⟩ := each (post "first" none)
  obtain ⟨d, second⟩ := each (post "second" none)
  have both : candidatesOf config ⟨0, 0⟩ reader found [post "first" none, post "second" none] =
      .ok [c, d] := by
    rw [single fits]
    exact (mapM_ok_iff _ _ _).2 (.cons first (.cons second .nil))
  obtain ⟨each, -⟩ := made _ both
  obtain ⟨scored, each⟩ := List.forall₂_cons.1 each
  obtain ⟨near, -⟩ := List.forall₂_cons.1 each
  exact ⟨stopped, c, d, both, scored.scored rfl _ rfl, near.vector⟩

end PersonalFeed
