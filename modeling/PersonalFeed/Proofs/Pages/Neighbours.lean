import PersonalFeed.Proofs.Entries.Requests
import PersonalFeed.Proofs.Pages.Attaining
import PersonalFeed.Proofs.Pages.Keyed
import PersonalFeed.Proofs.PostIds
import PersonalFeed.Proofs.Ranking.Ordered

/-!
The posts similar to one post, exactly. A post that has no row, no vector or an author whom the
requester may not see is answered with nothing, and the index is not searched for it. Any other is
answered with what the index finds near its vector and the requester may see, each post once and in
the order of its score.
-/

set_option autoImplicit false

namespace PersonalFeed

open Scalar

variable {C R : Type}

namespace PointId

theorem isGrouped_write (n : Nat) :
    ∃ text, PostId.write n = .ofChars text ∧ isGrouped text = true := by
  have digit (m : Nat) : isHexDigit (Nat.digitChar (m % 16)) = true :=
    isHexDigit_digitChar _ (Nat.mod_lt _ (by decide))
  refine ⟨_, rfl, ?_⟩
  simp [isGrouped, PostId.hexDigits, hyphenPlaces, List.range_succ, digit]

/-- A canonical id is in a spelling that the index takes, and the one that it keeps. -/
theorem canonical?_of_isCanonical {id : Text} (canonical : PostId.IsCanonical id) :
    canonical? id = some id := by
  obtain ⟨n, rfl⟩ := PostId.exists_of_isCanonical canonical
  obtain ⟨text, written, grouped⟩ := isGrouped_write n
  have read : PostId.canonical? (PostId.write n) = some (PostId.write n) := canonical.1
  have spelled : isSpelling text = true := by rw [isSpelling, grouped, Bool.or_true]; rfl
  rw [PostId.canonical?, PostId.read?] at read
  rw [written, Text.chars?_ofChars] at read
  rw [written, canonical?, Text.chars?_ofChars, Option.filter_some, if_pos spelled]
  exact read

end PointId

theorem PostRow.keys_of_post [Numeral R] [Component C R] {row : PostRow R} {post : Post C}
    (made : row.post = .ok post) : post.id = row.id ∧ post.author = row.author := by
  obtain ⟨_, _, rfl⟩ := ok_of_map made
  exact ⟨rfl, rfl⟩

theorem Tables.IsSound.canonical_of_gives [Score R] [Component C R] {tables : Tables R}
    (sound : tables.IsSound C) {post : Post C} (given : tables.Gives post) :
    PostId.IsCanonical post.id := by
  obtain ⟨row, inside, made⟩ := given
  rw [(PostRow.keys_of_post made).1]
  exact sound.named row inside

/-- The vector of a post: that of its point or, if it has no point, the stored one. -/
def Index.Locates (index : Index C) (post : Post C) (vector : Embedding C) : Prop :=
  (∃ point ∈ index.points, point.id = post.id ∧ point.direction = vector) ∨
    ((∀ point ∈ index.points, point.id ≠ post.id) ∧ post.embedding = some vector.toTensor)

/-- What a request for similar posts may start from: a stored post whose author its requester may
see, and a vector of it. -/
structure Deployment.HasSource [Score R] [Component C R] (deployment : Deployment C R)
    (query : SimilarQuery) (post : Post C) (vector : Embedding C) : Prop where
  given : deployment.tables.Gives post
  named : post.id = query.post
  permitted : deployment.tables.Permits query.requester post.author
  located : deployment.index.Locates post vector

/-- What the index finds for a request: as many points as asked for at most, none of them twice,
without the post itself and without the authors blocked. -/
structure SimilarQuery.Finds [Score R] [Component C R] (query : SimilarQuery)
    (deployment : Deployment C R) (vector : Embedding C) (hits : List (Hit C R)) : Prop where
  searched : deployment.index.search vector query.limit
    ⟨sortedIds (deployment.tables.blocked query.requester), [query.post]⟩ = .ok hits
  few : hits.length ≤ query.limit
  distinct : (hits.map Hit.id).Nodup
  eligible : ∀ hit ∈ hits, hit.id ≠ query.post ∧ ∃ point ∈ deployment.index.points,
    point.id = hit.id ∧ point.author ∉ deployment.tables.blocked query.requester

/-- What is shown of the points that were found: those that have a row and an author whom the
requester may see, each once and not the post itself, by the score of the index. -/
structure SimilarQuery.Shows [Score R] [Component C R] (query : SimilarQuery) (tables : Tables R)
    (hits : List (Hit C R)) (shown : List (Scored C R)) : Prop where
  exact : ∀ id, id ∈ shown.map (·.post.id) ↔ (∃ hit ∈ hits, hit.id = id) ∧
    ∃ row ∈ tables.posts, row.id = id ∧ tables.Permits query.requester row.author
  distinct : (shown.map (·.post.id)).Nodup
  apart : query.post ∉ shown.map (·.post.id)
  stored : ∀ s ∈ shown, tables.Gives s.post
  scores : ∀ s ∈ shown, ∃ hit ∈ hits, hit.id = s.post.id ∧ s.similarity = hit.score ∧
    s.final = larger zero hit.score
  sorted : shown.Pairwise Scored.Before

namespace Service

variable [Score R] [Component C R] {service : Service R} {deployment : Deployment C R}

open Deployment

omit [Score R] in
theorem isReading_of_asksForSimilar {requester : Text} {query : Query R}
    (asked : asksForSimilar requester query) : query.isReading = true := by
  cases query <;> first | rfl | exact asked.elim

theorem fetchPosts_attains {ids : List Text} (whole : ∀ id ∈ ids, id.isWhole = true)
    {posts : List (Post C)}
    (read : (deployment.tables.posts.filter fun row => ids.contains row.id).mapM PostRow.post =
      .ok posts) : deployment.Attains service (fetchPosts ids) posts [] :=
  attains_of_tracks (asksForSimilar .empty) (fun _ => isReading_of_asksForSimilar)
    (fetchPosts_tracks (fun _ => trivial) ids)
    (fetchPosts_isStrict fun _ => by simp [Query.name, searchName]) (eval_fetchPosts whole read)

theorem fetchAuthors_attains {posts : List (Post C)}
    (whole : ∀ post ∈ posts, post.author.isWhole = true) :
    deployment.Attains service (fetchAuthors (posts.map (·.author)))
      (authorsOf deployment.tables posts) [] :=
  attains_of_tracks (asksForSimilar .empty) (fun _ => isReading_of_asksForSimilar)
    (fetchAuthors_tracks (fun _ => trivial) _)
    (fetchAuthors_isStrict fun _ => by simp [Query.name, searchName])
    (eval_fetchAuthors deployment whole)

theorem fetchAuthor_attains (sound : deployment.tables.IsSound C) {post : Post C}
    (given : deployment.tables.Gives post) :
    deployment.Attains service (fetchAuthors [post.author])
      (authorsOf deployment.tables [post]) [] := by
  have authored : deployment.Attains service (fetchAuthors ([post].map (·.author)))
      (authorsOf deployment.tables [post]) [] := fetchAuthors_attains fun other member =>
    List.mem_singleton.1 member ▸ sound.author_isWhole given
  exact authored

section

variable {requester : Text} (root : service.root.isWhole = true)
variable (whole : requester.isWhole = true)

include root whole

theorem loadFollowing_attains :
    deployment.Attains service (service.loadFollowing requester)
      (.ids (sortedIds (deployment.tables.following requester))) [] :=
  attains_of_tracks (asksForSimilar requester) (fun _ => isReading_of_asksForSimilar)
    (loadFollowing_tracks deployment.isCold_answers rfl id)
    (loadFollowing_isStrict (by simp [Query.name, searchName])) (eval_loadFollowing root whole)

theorem loadBlocked_attains :
    deployment.Attains service (service.loadBlocked requester)
      (.ids (sortedIds (deployment.tables.blocked requester))) [] :=
  attains_of_tracks (asksForSimilar requester) (fun _ => isReading_of_asksForSimilar)
    (loadBlocked_tracks deployment.isCold_answers rfl id)
    (loadBlocked_isStrict (by simp [Query.name, searchName])) (eval_loadBlocked root whole)

end

def vectorsAt (index : Index C) (id : Text) : List (Text × Embedding C) :=
  (index.points.filter fun point => ([id].filterMap PointId.canonical?).contains point.id).map
    fun point => (point.id, point.direction)

omit [Score R] [Component C R] in
theorem vectorFor_iff {index : Index C} (distinct : (index.points.map Point.id).Nodup) {id : Text}
    (canonical : PostId.IsCanonical id) {vector : Embedding C} :
    vectorFor (vectorsAt index id) id = some vector ↔
      ∃ point ∈ index.points, point.id = id ∧ point.direction = vector := by
  have once : ((vectorsAt index id).reverse.map Prod.fst).Nodup := by
    rw [List.map_reverse, List.nodup_reverse, vectorsAt, List.map_map]
    exact (List.filter_sublist.map Point.id).nodup distinct
  rw [vectorFor, Option.map_eq_some_iff]
  constructor
  · rintro ⟨pair, last, rfl⟩
    obtain ⟨listed, named⟩ := (find?_key_iff once).1 last
    obtain ⟨point, inside, rfl⟩ := List.mem_map.1 (List.mem_reverse.1 listed)
    exact ⟨point, (List.mem_filter.1 inside).1, named, rfl⟩
  · rintro ⟨point, inside, named, rfl⟩
    refine ⟨(point.id, point.direction), (find?_key_iff once).2 ⟨?_, named⟩, rfl⟩
    refine List.mem_reverse.2 (List.mem_map_of_mem (List.mem_filter.2 ⟨inside, ?_⟩))
    rw [List.contains_iff_mem, named]
    exact List.mem_filterMap.2 ⟨id, List.mem_cons_self, PointId.canonical?_of_isCanonical canonical⟩

/-- What a search starts from: the vector of a post, if it has one. -/
theorem source_iff (sound : deployment.IsWorking) {post : Post C}
    (given : deployment.tables.Gives post) {id : Text} (named : post.id = id) {source : Tensor C} :
    (((vectorFor (vectorsAt deployment.index id) id).map Embedding.toTensor).orElse
      fun _ => post.embedding) = some source ↔
      ∃ vector, source = vector.toTensor ∧ deployment.index.Locates post vector := by
  have canonical : PostId.IsCanonical id := named ▸ sound.tables.canonical_of_gives given
  have indexed (vector : Embedding C) :
      vectorFor (vectorsAt deployment.index id) id = some vector ↔
        ∃ point ∈ deployment.index.points, point.id = id ∧ point.direction = vector :=
    vectorFor_iff sound.distinct canonical
  subst named
  -- A point of the post settles which vector it is; the stored one counts only without a point.
  cases near : vectorFor (vectorsAt deployment.index post.id) post.id with
  | some vector =>
    have point := (indexed vector).1 near
    constructor
    · rintro ⟨⟩
      exact ⟨vector, rfl, .inl point⟩
    · rintro ⟨other, rfl, point' | ⟨free, -⟩⟩
      · cases near.symm.trans ((indexed _).2 point')
        rfl
      · obtain ⟨point, inside, same, -⟩ := point
        exact absurd same (free point inside)
  | none =>
    have free : ∀ point ∈ deployment.index.points, point.id ≠ post.id := by
      intro point inside same
      cases near.symm.trans ((indexed _).2 ⟨point, inside, same, rfl⟩)
    constructor
    · intro stored
      obtain ⟨vector, rfl, -⟩ := embedding_of_gives sound given stored
      exact ⟨vector, rfl, .inr ⟨free, stored⟩⟩
    · rintro ⟨vector, rfl, ⟨point, inside, same, -⟩ | ⟨-, stored⟩⟩
      · exact absurd same (free point inside)
      · exact stored

theorem checkVector_of_locates (sound : deployment.IsWorking) {post : Post C}
    (given : deployment.tables.Gives post) {vector : Embedding C}
    (located : deployment.index.Locates post vector) : Index.checkVector vector = .ok () := by
  rcases located with ⟨point, inside, -, rfl⟩ | ⟨-, stored⟩
  · exact sound.defined point inside
  · obtain ⟨other, same, defined⟩ := embedding_of_gives sound given stored
    have read := Embedding.ofTensor_toTensor (R := R) vector
    rw [same, Embedding.ofTensor_toTensor] at read
    exact Except.ok.inj read ▸ defined

theorem fetchVectors_attains (asked : deployment.fixedRetrieval = none) (id : Text) :
    deployment.Attains service (fetchVectors [id]) (vectorsAt deployment.index id) [] := by
  refine attains_of_tracks (asksForSimilar .empty) (fun _ => isReading_of_asksForSimilar)
    (fetchVectors_tracks [id]) (fetchVectors_isStrict (by decide)) ?_
  have answered : deployment.answers (.retrieve [id]) =
      .answer (deployment.index.retrieve [id]) := by
    rw [answers_retrieve, asked]
    rfl
  rw [fetchVectors, if_neg (by simp)]
  refine (Task.eval_bind_ok (Task.eval_ask _) _).trans ?_
  have once : [id].eraseDups = [id] := rfl
  rw [once, answered]
  refine (Task.eval_bind_ok rfl _).trans ?_
  -- Points make hits with their direction, so all of them are read.
  have read : (deployment.index.retrieve [id] : List (Hit C R)).mapM Hit.neighbour =
      .ok ((deployment.index.points.filter fun point =>
        ([id].filterMap PointId.canonical?).contains point.id).map fun point =>
          ⟨point.id, zero, some point.direction⟩) := by
    rw [Index.retrieve, mapM_ok_iff, List.forall₂_map_left_iff, List.forall₂_map_right_iff,
      List.forall₂_same]
    exact fun point _ => Hit.neighbour_toTensor ..
  rw [read]
  refine (Task.eval_bind_ok rfl _).trans ?_
  rw [Task.eval_pure, List.filterMap_map]
  exact congrArg Except.ok (congrFun List.filterMap_eq_map _)

end Service

section

variable [Score R] [Component C R] {index : Index C} {tables : Tables R}

/-- No more than as many points as asked for are found, and none that is left out. -/
theorem Index.search_eligible {vector : Embedding C} {limit : Int} {exclusion : Exclusion}
    {hits : List (Hit C R)} (searched : index.search vector limit exclusion = .ok hits) :
    hits.length ≤ limit.toNat ∧ ∀ hit ∈ hits, ∃ point ∈ index.points, point.id = hit.id ∧
      point.author ∉ exclusion.authors ∧
      ∀ post ∈ exclusion.posts, PointId.canonical? post ≠ some point.id := by
  obtain ⟨_, _, searched⟩ := ok_of_bind searched
  cases searched
  refine ⟨List.length_take_le _ _, fun hit member => ?_⟩
  have reported := (Sorting.sortStrays_perm _ _ _).mem_iff.1 (List.mem_of_mem_take member)
  obtain ⟨point, eligible, rfl⟩ := List.mem_map.1 reported
  obtain ⟨inside, kept⟩ := List.mem_filter.1 eligible
  simp only [Exclusion.excludes, Bool.not_or, Bool.and_eq_true, Bool.not_eq_true',
    List.contains_eq_mem, decide_eq_false_iff_not, List.mem_filterMap, not_exists, not_and] at kept
  exact ⟨point, inside, rfl, kept⟩

variable {ids : List Text} {posts : List (Post C)}
  (read : (tables.posts.filter fun row => ids.contains row.id).mapM PostRow.post = .ok posts)

include read

theorem gives_of_read {post : Post C} (member : post ∈ posts) : tables.Gives post := by
  obtain ⟨row, inside, made⟩ := mem_of_mapM read member
  exact ⟨row, (List.mem_filter.1 inside).1, made⟩

/-- Among the posts read for some ids each of these ids is found that a post of the tables has. -/
theorem find?_of_read (keyed : tables.IsKeyed) {id : Text} (asked : id ∈ ids) {post : Post C} :
    posts.find? (·.id = id) = some post ↔ tables.Gives post ∧ post.id = id := by
  have names (row : PostRow R) (post : Post C) (made : row.post = .ok post) : post.id = row.id :=
    (PostRow.keys_of_post made).1
  have once : (posts.map Post.id).Nodup := by
    rw [map_of_mapM names read]
    exact (List.filter_sublist.map PostRow.id).nodup keyed.posts
  rw [find?_key_iff once]
  refine and_congr_left fun named => ⟨gives_of_read read, fun given => ?_⟩
  obtain ⟨row, inside, made⟩ := given
  have selected : row ∈ tables.posts.filter fun row => ids.contains row.id := by
    refine List.mem_filter.2 ⟨inside, ?_⟩
    rw [← names row post made, named]
    exact List.contains_iff_mem.2 asked
  obtain ⟨other, member, made'⟩ := exists_of_mapM read selected
  cases made.symm.trans made'
  exact member

end

namespace Service

variable [Score R] [Component C R] {service : Service R} {deployment : Deployment C R}

open Deployment

section

variable {tables : Tables R} {query : SimilarQuery} {hits : List (Hit C R)}
variable {found : List (Neighbour C R)} {posts : List (Post C)} (keyed : tables.IsKeyed)
variable (near : hits.mapM Hit.neighbour = .ok found)
variable (read : (tables.posts.filter fun row => (found.map (·.id)).contains row.id).mapM
  PostRow.post = .ok posts)

include keyed near read

/-- What a requester sees of what was found: the posts with a row and an author who permits it. -/
theorem mem_visibleOf {reader : Text} {post : Post C} :
    post ∈ visibleOf tables reader (inFoundOrder found posts) ↔
      (∃ hit ∈ hits, hit.id = post.id) ∧ tables.Gives post ∧
        tables.Permits reader post.author := by
  -- Without the view: what was found and has a row, in either direction through the key.
  have stored : post ∈ inFoundOrder found posts ↔
      (∃ hit ∈ hits, hit.id = post.id) ∧ tables.Gives post := by
    rw [inFoundOrder, List.mem_filterMap]
    constructor
    · rintro ⟨neighbour, inside, first⟩
      have asked : neighbour.id ∈ found.map (·.id) := List.mem_map_of_mem inside
      obtain ⟨given, named⟩ := (find?_of_read read keyed asked).1 first
      rw [ids_of_neighbours near] at asked
      obtain ⟨hit, member, same⟩ := List.mem_map.1 asked
      exact ⟨⟨hit, member, same.trans named.symm⟩, given⟩
    · rintro ⟨⟨hit, member, same⟩, given⟩
      have asked : post.id ∈ found.map (·.id) := by
        rw [ids_of_neighbours near, ← same]
        exact List.mem_map_of_mem member
      obtain ⟨neighbour, inside, named⟩ := List.mem_map.1 asked
      refine ⟨neighbour, inside, ?_⟩
      rw [named]
      exact (find?_of_read read keyed asked).2 ⟨given, rfl⟩
  rw [visibleOf, Viewpoint.visible, List.mem_filter, stored, and_assoc]
  refine and_congr_right fun nearby => and_congr_right fun given => ?_
  have member := List.mem_map_of_mem (stored.2 ⟨nearby, given⟩) (f := (·.author))
  exact canSee_iff_permits keyed member

omit keyed read [Component C R] in
theorem score_of_found {id : Text} (listed : ∃ hit ∈ hits, hit.id = id) :
    ∃ hit ∈ hits, hit.id = id ∧ ((neighbour? found id).map (·.score)).getD zero = hit.score := by
  obtain ⟨hit, inside, named⟩ := listed
  have asked : id ∈ found.map Neighbour.id := by
    rw [ids_of_neighbours near, ← named]
    exact List.mem_map_of_mem inside
  obtain ⟨neighbour, there, same⟩ := List.mem_map.1 asked
  cases last : neighbour? found id with
  | none =>
    have missing := List.find?_eq_none.1 last neighbour (List.mem_reverse.2 there)
    exact absurd (decide_eq_true same) missing
  | some other =>
    have member := List.mem_reverse.1 (List.mem_of_find?_eq_some last)
    have named : other.id = id := by simpa using List.find?_some last
    obtain ⟨hit, inside, made⟩ := mem_of_mapM near member
    obtain ⟨_, _, rfl⟩ := ok_of_map made
    exact ⟨hit, inside, named, rfl⟩

variable [OrderRules R] [SignRules R]

omit keyed near read [Component C R] in
theorem isNaN_final {post : Post C} {s : Scored C R}
    (made : service.similarScored found post = .ok s) : isNaN s.final = false := by
  obtain ⟨temporal, _, made⟩ := ok_of_bind made
  cases made
  dsimp only
  unfold larger
  split
  · exact (SignRules.positive _ ‹_›).2
  · exact OrderRules.ratio 0 1 (by decide)

section

variable {scored : List (Scored C R)}
variable (made : (visibleOf tables query.requester (inFoundOrder found posts)).mapM
  (service.similarScored found) = .ok scored)

include made

omit keyed near read [OrderRules R] [SignRules R] [Component C R] in
theorem posts_of_scored :
    scored.map Scored.post = visibleOf tables query.requester (inFoundOrder found posts) :=
  (map_of_mapM (fun _ _ => post_of_similarScored) made).trans (List.map_id _)

omit keyed near read [OrderRules R] [SignRules R] [Component C R] in
theorem ids_of_scored :
    scored.map (·.post.id) =
      (visibleOf tables query.requester (inFoundOrder found posts)).map Post.id := by
  rw [← posts_of_scored made, List.map_map]
  rfl

omit keyed read [OrderRules R] [SignRules R] [Component C R] in
theorem ids_of_scored_sublist : (scored.map (·.post.id)).Sublist (hits.map Hit.id) := by
  rw [ids_of_scored made, ← ids_of_neighbours near]
  exact (List.filter_sublist.map Post.id).trans (ids_inFoundOrder found posts)

omit [OrderRules R] [SignRules R] in
/-- The ids of what is scored are those of the hits with a row and an author who permits it. -/
theorem mem_ids_of_scored (sound : tables.IsSound C) {id : Text} :
    id ∈ scored.map (·.post.id) ↔ (∃ hit ∈ hits, hit.id = id) ∧
      ∃ row ∈ tables.posts, row.id = id ∧ tables.Permits query.requester row.author := by
  rw [ids_of_scored made, List.mem_map]
  constructor
  · rintro ⟨post, seen, rfl⟩
    obtain ⟨nearby, ⟨row, stored, read⟩, permitted⟩ := (mem_visibleOf keyed near read).1 seen
    obtain ⟨named, authored⟩ := PostRow.keys_of_post read
    exact ⟨nearby, row, stored, named.symm, authored ▸ permitted⟩
  · rintro ⟨nearby, row, stored, rfl, permitted⟩
    obtain ⟨post, made⟩ := Tables.post_isOk sound stored
    obtain ⟨named, authored⟩ := PostRow.keys_of_post made
    refine ⟨post, (mem_visibleOf keyed near read).2 ⟨named ▸ nearby, ⟨row, stored, made⟩, ?_⟩,
      named⟩
    exact authored ▸ permitted

omit keyed read [OrderRules R] [SignRules R] [Component C R] in
theorem scores_of_scored {s : Scored C R} (member : s ∈ scored) :
    ∃ hit ∈ hits, hit.id = s.post.id ∧ s.similarity = hit.score ∧
      s.final = larger zero hit.score := by
  have listed : s.post.id ∈ hits.map Hit.id :=
    (ids_of_scored_sublist near made).subset (List.mem_map_of_mem member)
  obtain ⟨hit, there, named, score⟩ := score_of_found near (List.mem_map.1 listed)
  obtain ⟨post, _, scoring⟩ := mem_of_mapM made member
  have own := post_of_similarScored scoring
  obtain ⟨_, _, scoring⟩ := ok_of_bind scoring
  cases scoring
  exact ⟨hit, there, named, score, congrArg (larger zero) score⟩

omit near read [OrderRules R] [SignRules R] [Component C R] in
/-- The authors are loaded for all posts found, so they include those of the posts scored. -/
theorem authors_of_scored {s : Scored C R} (member : s ∈ scored) :
    Author.find? (authorsOf tables (inFoundOrder found posts)) s.post.author =
      (tables.user? s.post.author).map UserRow.author := by
  have seen : s.post ∈ visibleOf tables query.requester (inFoundOrder found posts) :=
    posts_of_scored made ▸ List.mem_map_of_mem member
  exact find?_authorsOf keyed (List.mem_map_of_mem (List.mem_filter.1 seen).1)

/-- Scored and in their order, the posts that a requester sees of what was found are as they are to
be shown. -/
theorem shows_ordered (sound : tables.IsSound C) (distinct : (hits.map Hit.id).Nodup)
    (few : hits.length ≤ query.limit) (apart : ∀ hit ∈ hits, hit.id ≠ query.post) :
    query.Shows tables hits ((Scored.ordered scored).take query.limit) := by
  have listed := ids_of_scored_sublist near made
  have once : (scored.map (·.post.id)).Nodup := listed.nodup distinct
  have shuffled : (Scored.ordered scored).Perm scored := Sorting.sortStrays_perm _ _ _
  -- There are no more posts than hits, and so none is cut off.
  have all : (Scored.ordered scored).take query.limit = Scored.ordered scored := by
    refine List.take_of_length_le ?_
    have length := listed.length_le
    rw [List.length_map, List.length_map] at length
    rw [shuffled.length_eq]
    exact length.trans few
  have exact (id : Text) :
      id ∈ (Scored.ordered scored).map (·.post.id) ↔ id ∈ scored.map (·.post.id) :=
    (shuffled.map _).mem_iff
  rw [all]
  refine {
    exact := fun id => (exact id).trans (mem_ids_of_scored keyed near read made sound)
    distinct := (shuffled.map _).nodup_iff.2 once
    apart := fun shown => ?apart
    stored := fun s inside => ?stored
    scores := fun s inside => scores_of_scored near made (shuffled.mem_iff.1 inside)
    sorted := Scored.ordered_before (fun s inside => ?number) once }
  case apart =>
    obtain ⟨hit, member, same⟩ := List.mem_map.1 (listed.subset ((exact _).1 shown))
    exact apart hit member same
  case stored =>
    have seen : s.post ∈ visibleOf tables query.requester (inFoundOrder found posts) :=
      posts_of_scored made ▸ List.mem_map_of_mem (shuffled.mem_iff.1 inside)
    exact ((mem_visibleOf keyed near read).1 seen).2.1
  case number =>
    obtain ⟨post, _, scoring⟩ := mem_of_mapM made inside
    exact isNaN_final scoring

end

end

section

variable [OrderRules R] [SignRules R] (accepted : service.config.IsAccepted)
variable (rooted : service.root.isWhole = true) (sound : deployment.IsWorking)
variable (keyed : deployment.tables.IsKeyed) {query : SimilarQuery}

include sound keyed

omit [OrderRules R] [SignRules R] sound keyed in
/-- A search without the post itself and without the authors blocked finds none of these. -/
theorem finds_of_search (canonical : PostId.IsCanonical query.post) {vector : Embedding C}
    {hits : List (Hit C R)} (searched : deployment.index.search vector query.limit
      ⟨sortedIds (deployment.tables.blocked query.requester), [query.post]⟩ = .ok hits)
    (distinct : (hits.map Hit.id).Nodup) : query.Finds deployment vector hits := by
  obtain ⟨few, eligible⟩ := Index.search_eligible searched
  refine ⟨searched, few, distinct, fun hit member => ?_⟩
  obtain ⟨point, inside, named, unblocked, apart⟩ := eligible hit member
  refine ⟨fun same => apart query.post List.mem_cons_self ?_, point, inside, named,
    mt mem_sortedIds.2 unblocked⟩
  rw [PointId.canonical?_of_isCanonical canonical, named, same]

omit [OrderRules R] [SignRules R] keyed in
theorem isWhole_of_finds {vector : Embedding C} {hits : List (Hit C R)}
    (finds : query.Finds deployment vector hits) {found : List (Neighbour C R)}
    (near : hits.mapM Hit.neighbour = .ok found) :
    ∀ id ∈ found.map (·.id), id.isWhole = true := by
  intro id member
  rw [ids_of_neighbours near] at member
  obtain ⟨hit, inside, rfl⟩ := List.mem_map.1 member
  obtain ⟨-, point, there, named, -⟩ := finds.eligible hit inside
  exact named ▸ sound.written point there

include accepted in
/-- The neighbours of a vector are searched for once, and those that may be seen are shown. -/
theorem computeNeighbours_attains (positive : 0 < query.limit)
    (canonical : PostId.IsCanonical query.post) {vector : Embedding C}
    (checked : Index.checkVector vector = .ok ()) :
    ∃ hits shown authors answer, query.Finds deployment vector hits ∧
      query.Shows deployment.tables hits shown ∧
      (∀ s ∈ shown, Author.find? authors s.post.author =
        (deployment.tables.user? s.post.author).map UserRow.author) ∧
      deployment.Attains service (service.computeNeighbours query
        (some (.ids (sortedIds (deployment.tables.following query.requester))))
        (.ids (sortedIds (deployment.tables.blocked query.requester))) vector.toTensor)
        answer [query.limit] ∧
      answer.getD ⟨query.post, []⟩ = ⟨query.post, hydrate authors service.sign shown⟩ := by
  obtain ⟨hits, found, searched, near, once⟩ : ∃ (hits : List (Hit C R)) (found : _),
      deployment.index.search vector query.limit
        ⟨sortedIds (deployment.tables.blocked query.requester), [query.post]⟩ = .ok hits ∧
      hits.mapM Hit.neighbour = .ok found ∧ _ := Index.search_isOk checked
  have distinct := once sound.distinct
  rw [ids_of_neighbours near] at distinct
  have finds : query.Finds deployment vector hits := finds_of_search canonical searched distinct
  obtain ⟨posts, read⟩ : ∃ posts : List (Post C), (deployment.tables.posts.filter fun row =>
      (found.map (·.id)).contains row.id).mapM PostRow.post = .ok posts :=
    Tables.posts_isOk sound.tables fun row member => (List.mem_filter.1 member).1
  let stored := inFoundOrder found posts
  obtain ⟨scored, made⟩ := mapM_isOk fun post
    (_ : post ∈ visibleOf deployment.tables query.requester stored) =>
      similarScored_isOk accepted found post
  have shows := shows_ordered keyed near read made sound.tables distinct finds.few
    fun hit member => (finds.eligible hit member).1
  have authored : ∀ s ∈ (Scored.ordered scored).take query.limit,
      Author.find? (authorsOf deployment.tables stored) s.post.author =
        (deployment.tables.user? s.post.author).map UserRow.author := fun s member =>
    authors_of_scored keyed made
      ((Sorting.sortStrays_perm _ _ _).mem_iff.1 (List.mem_of_mem_take member))
  have search : deployment.Attains service (do
        let direction ← Task.ofExcept (Embedding.ofTensor vector.toTensor)
        findNeighbours direction query.limit
          (.ids (sortedIds (deployment.tables.blocked query.requester))) [query.post] :
          Task C R (List (Neighbour C R))) found [(query.limit : Int)] :=
    attains_bind (attains_ofExcept (Embedding.ofTensor_toTensor vector))
      (attains_search sound.asked (Int.natCast_pos.2 positive) searched near)
  refine ⟨hits, _, authorsOf deployment.tables stored,
    if found.isEmpty then none else some ⟨query.post, hydrate (authorsOf deployment.tables stored)
      service.sign ((Scored.ordered scored).take query.limit)⟩, finds, shows, authored, ?_, ?_⟩
  · unfold computeNeighbours
    refine attains_bind_last (attains_attempt _ search) ?_
    dsimp only
    split
    · exact attains_pure none
    · have whole := isWhole_of_finds sound finds near
      refine attains_bind (attains_attempt _ (fetchPosts_attains whole read)) ?_
      refine attains_bind (attains_attempt _ (fetchAuthors_attains
        (authors_isWhole sound.tables found read))) ?_
      exact attains_bind (attains_ofExcept made) (attains_pure _)
  · cases found with
    | nil =>
      cases made
      simp [Scored.ordered, Sorting.sortStrays, hydrate]
    | cons => rfl

include rooted

omit [OrderRules R] [SignRules R] keyed in
theorem parts_attains (named : query.post.isWhole = true) (whole : query.requester.isWhole = true) :
    ∃ posts : List (Post C),
      (deployment.tables.posts.filter fun row => [query.post].contains row.id).mapM PostRow.post =
        .ok posts ∧
      deployment.Attains service
        (Task.both (Task.attempt .content (fetchPosts (C := C) [query.post])) <|
          Task.both (Task.attempt .candidates (fetchVectors [query.post])) <|
          Task.both (Task.attempt .follows (service.loadFollowing query.requester))
            (Task.attempt .blocks (service.loadBlocked query.requester)))
        (some posts, some (vectorsAt deployment.index query.post),
          some (.ids (sortedIds (deployment.tables.following query.requester))),
          some (.ids (sortedIds (deployment.tables.blocked query.requester)))) [] := by
  obtain ⟨posts, read⟩ : ∃ posts : List (Post C), (deployment.tables.posts.filter fun row =>
      [query.post].contains row.id).mapM PostRow.post = .ok posts :=
    Tables.posts_isOk sound.tables fun row member => (List.mem_filter.1 member).1
  refine ⟨posts, read, ?_⟩
  refine attains_both (attains_attempt _ (fetchPosts_attains (fun id member => ?_) read)) <|
    attains_both (attains_attempt _ (fetchVectors_attains sound.retrieved _)) <|
    attains_both (attains_attempt _ (loadFollowing_attains rooted whole))
      (attains_attempt _ (loadBlocked_attains rooted whole))
  exact List.mem_singleton.1 member ▸ named

variable (named : query.post.isWhole = true) (whole : query.requester.isWhole = true)

include named whole

omit [OrderRules R] [SignRules R] in
theorem computeSimilar_attains_none
    (without : ∀ post vector, ¬ deployment.HasSource query post vector) :
    deployment.Attains service (service.computeSimilar (C := C) query) none [] := by
  obtain ⟨posts, read, loaded⟩ := parts_attains rooted sound named whole
  unfold computeSimilar
  refine attains_bind loaded ?_
  dsimp only
  cases found : posts.find? (·.id = query.post) with
  | none => exact attains_pure none
  | some post =>
    obtain ⟨given, same⟩ := (find?_of_read read keyed List.mem_cons_self).1 found
    dsimp only
    refine attains_bind (attains_attempt _ (fetchAuthor_attains sound.tables given)) ?_
    dsimp only
    split
    · rename_i seen
      have permitted := (canSee_source_iff keyed post).1 seen
      split
      · exact attains_pure none
      -- The post may be seen, so its vector would be something to start from.
      · rename_i source
        obtain ⟨vector, -, located⟩ := (source_iff sound given same).1 source
        exact absurd ⟨given, same, permitted, located⟩ (without post vector)
    · exact attains_pure none

include accepted in
/-- From a vector of a post that the requester may see its neighbours are searched for. -/
theorem computeSimilar_attains (positive : 0 < query.limit) {post : Post C} {vector : Embedding C}
    (source : deployment.HasSource query post vector) :
    ∃ hits shown authors answer, query.Finds deployment vector hits ∧
      query.Shows deployment.tables hits shown ∧
      (∀ s ∈ shown, Author.find? authors s.post.author =
        (deployment.tables.user? s.post.author).map UserRow.author) ∧
      deployment.Attains service (service.computeSimilar (C := C) query) answer [query.limit] ∧
      answer.getD ⟨query.post, []⟩ = ⟨query.post, hydrate authors service.sign shown⟩ := by
  obtain ⟨given, same, permitted, located⟩ := source
  have canonical : PostId.IsCanonical query.post := same ▸ sound.tables.canonical_of_gives given
  obtain ⟨hits, shown, authors, answer, finds, shows, authored, computed, ended⟩ :=
    computeNeighbours_attains accepted sound keyed positive canonical
      (checkVector_of_locates sound given located)
  refine ⟨hits, shown, authors, answer, finds, shows, authored, ?_, ended⟩
  obtain ⟨posts, read, loaded⟩ := parts_attains rooted sound named whole
  have found : posts.find? (·.id = query.post) = some post :=
    (find?_of_read read keyed List.mem_cons_self).2 ⟨given, same⟩
  have seen := (canSee_source_iff keyed post).2 permitted
  have start := (source_iff sound given same).2 ⟨vector, rfl, located⟩
  -- From here the task is followed branch by branch: the post is found, its author is loaded, and
  -- it may be seen.
  unfold computeSimilar
  refine attains_bind loaded ?_
  dsimp only
  rw [found]
  dsimp only
  refine attains_bind (attains_attempt _ (fetchAuthor_attains sound.tables given)) ?_
  dsimp only
  rw [Option.getD_some, start]
  exact (if_pos seen).symm ▸ computed

end

omit [Score R] in
theorem limit_of_checkSimilar {config : Config R} {request : SimilarRequest R}
    {query : SimilarQuery} (checked : checkSimilar config request = .ok query) : 0 < query.limit := by
  obtain ⟨post, _, checked⟩ := ok_of_bind checked
  split at checked
  · cases checked
  · obtain ⟨limit, sized, checked⟩ := ok_of_bind checked
    cases checked
    exact positive_of_pageSize sized

section

variable (rooted : service.root.isWhole = true) (sound : deployment.IsWorking)
variable (on : deployment.cache.isOn = true) (empty : deployment.cache.entries = [])
variable {request : SimilarRequest R} {query : SimilarQuery}
variable (checked : checkSimilar service.config request = .ok query)
variable (whole : query.requester.isWhole = true)

include rooted sound on empty checked whole

theorem perform_similarPosts {answer : Option (SimilarResponse R)} {limits : List Int}
    (computed : deployment.Attains service (service.computeSimilar (C := C) query) answer limits) :
    ∃ later, deployment.perform (service.similarPosts (C := C) request) =
        (.ok (answer.getD ⟨query.post, []⟩), later) ∧
      later.limits = limits ++ deployment.limits := by
  obtain ⟨-, n, named⟩ := checkSimilar_ok checked
  let key : CacheKey := .similar query.post query.requester query.limit
  obtain ⟨written, encoded⟩ : ∃ written, (service.key key).toString? = some written := by
    refine Option.ne_none_iff_exists'.1 (written_of_whole key rooted ?_)
    simp [key, CacheKey.parts, named, PostId.isWhole_write, whole]
  have missed : deployment.cache.reading written = .ok none := by
    rw [CacheStore.reading, CacheStore.read, if_pos on, CacheStore.entry?, empty]
    rfl
  obtain ⟨metrics, looked⟩ := perform_cached encoded missed
  have coherent : deployment.IsCoherent service fun _ => False :=
    ⟨sound.quiet, on, sound.tables.dated, CacheStore.holds_of_empty empty⟩
  obtain ⟨later, ended, -, -, noted⟩ := computed { deployment with metrics := metrics }
    ⟨rfl, rfl, rfl, rfl⟩ (coherent.goesOn ⟨rfl, rfl, rfl, rfl⟩ sound.quiet on coherent.cache)
  -- The steps one by one: nothing is found, the answer is computed, and one that is worth it is
  -- kept.
  unfold similarPosts
  rw [checked]
  change ∃ last, deployment.perform (service.cached key >>= _) = (_, last) ∧ _
  rw [perform_bind_ok looked]
  dsimp only
  rw [perform_bind_ok ended]
  cases answer with
  | none => exact ⟨later, rfl, noted⟩
  | some response =>
    dsimp only
    rw [perform_bind_ok (perform_keep encoded _)]
    exact ⟨_, rfl, noted⟩

/-- A request for similar posts is answered with nothing, and without a search, if the post has no
row, no vector or an author whom the requester may not see. Else it is answered with the points that
the index finds near the vector of the post and whose rows and authors the requester may see. -/
theorem similarPosts_shows_neighbours [OrderRules R] [SignRules R]
    (accepted : service.config.IsAccepted) (keyed : deployment.tables.IsKeyed) :
    ((∀ post vector, ¬ deployment.HasSource query post vector) →
      ∃ later, deployment.perform (service.similarPosts (C := C) request) =
          (.ok ⟨query.post, []⟩, later) ∧
        later.limits = deployment.limits) ∧
    ∀ post vector, deployment.HasSource query post vector →
      ∃ hits shown authors later, query.Finds deployment vector hits ∧
        query.Shows deployment.tables hits shown ∧
        (∀ s ∈ shown, Author.find? authors s.post.author =
          (deployment.tables.user? s.post.author).map UserRow.author) ∧
        deployment.perform (service.similarPosts (C := C) request) =
          (.ok ⟨query.post, hydrate authors service.sign shown⟩, later) ∧
        later.limits = (query.limit : Int) :: deployment.limits := by
  obtain ⟨-, n, named⟩ := checkSimilar_ok checked
  have written : query.post.isWhole = true := named ▸ PostId.isWhole_write n
  refine ⟨fun without => ?_, fun post vector source => ?_⟩
  · exact perform_similarPosts rooted sound on empty checked whole
      (computeSimilar_attains_none rooted sound keyed written whole without)
  · obtain ⟨hits, shown, authors, answer, finds, shows, authored, computed, same⟩ :=
      computeSimilar_attains accepted rooted sound keyed written whole (limit_of_checkSimilar checked) source
    obtain ⟨later, ended, noted⟩ :=
      perform_similarPosts rooted sound on empty checked whole computed
    exact ⟨hits, shown, authors, later, finds, shows, authored, same ▸ ended, noted⟩

end

end Service

theorem twoPosts_isWorking : twoPosts.IsWorking where
  toIsSound := twoPosts_isSound
  quiet := rfl
  retrieved := rfl
  defined := by
    have direct : Index.checkVector (C := ℚ) (.replicate (1 / 32)) = .ok () := by
      refine if_neg fun undefined => ?_
      rw [Array.any_eq_true'] at undefined
      obtain ⟨c, inside, undefined⟩ := undefined
      rw [Array.eq_of_mem_replicate inside] at undefined
      exact absurd undefined (by decide)
    intro point member
    rcases List.mem_pair.1 member with rfl | rfl <;> exact direct

theorem twoPosts_isKeyed : twoPosts.tables.IsKeyed where
  users := by decide
  posts := by decide

/-- The post similar to the first of two posts: the index is searched once, for one neighbour. -/
theorem similarPosts_shows_neighbours_of_twoPosts :
    let service : Service ℚ := .standard "discovery" ⟨0, 0⟩
    let request : SimilarRequest ℚ :=
      ⟨.string "0f0e0d0c-0b0a-4908-8706-050403020100", "ann", .int 1⟩
    let query : SimilarQuery := ⟨"0f0e0d0c-0b0a-4908-8706-050403020100", "ann", 1⟩
    Service.checkSimilar service.config request = .ok query ∧
      ∃ hits shown authors later, query.Finds twoPosts (.replicate (1 / 32)) hits ∧
        query.Shows twoPosts.tables hits shown ∧
        (twoPosts.perform (service.similarPosts (C := ℚ) request)).1 =
          .ok ⟨query.post, hydrate authors service.sign shown⟩ ∧
        (twoPosts.perform (service.similarPosts (C := ℚ) request)).2 = later ∧
        later.limits = [1] := by
  intro service request query
  have checked : Service.checkSimilar service.config request = .ok query := rfl
  have source : twoPosts.HasSource query ⟨"0f0e0d0c-0b0a-4908-8706-050403020100", "bob", "first",
      ⟨0, 0⟩, 0, 0, [], none, none, none, none⟩ (.replicate (1 / 32)) := {
    given := ⟨_, List.mem_cons_self, rfl⟩
    named := rfl
    permitted := .inr ⟨by decide, by decide, _, List.mem_of_getElem? (i := 1) rfl, rfl, .inl rfl⟩
    located := .inl ⟨_, List.mem_cons_self, rfl, rfl⟩ }
  obtain ⟨hits, shown, authors, later, finds, shows, -, ended, noted⟩ :=
    (Service.similarPosts_shows_neighbours Service.standard_isSound.root twoPosts_isWorking rfl rfl
      checked (by decide) Service.standard_isSound.accepted twoPosts_isKeyed).2 _ _ source
  exact ⟨checked, hits, shown, authors, later, finds, shows, congrArg Prod.fst ended,
    congrArg Prod.snd ended, noted⟩

end PersonalFeed
