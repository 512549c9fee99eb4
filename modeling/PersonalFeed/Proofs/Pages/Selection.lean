import PersonalFeed.Deployment
import PersonalFeed.Proofs.Exposure.Answers
import PersonalFeed.Proofs.Ranking.Signs
import PersonalFeed.Proofs.Sorting
import PersonalFeed.Proofs.Store.Changes
import PersonalFeed.Proofs.Vectors

/-!
What a feed is made of, straight from the tables and the index: the posts that the index finds, that
have a row and whose authors the reader may see. Rows that are well formed always give a selection,
and no post is in it twice.
-/

set_option autoImplicit false

namespace PersonalFeed

open Scalar

variable {C R : Type}

structure Selection (C R : Type) where
  authors : List Author
  visible : List (Post C)
  candidates : List (Candidate C R)

def Selection.nothing : Selection C R := ⟨[], [], []⟩

namespace Service

variable [Score R] (service : Service R) (tables : Tables R) (identity : Text)

/-- The weights of a reader: the stored ones, or the configured ones where none are stored or the
stored ones are no weights. -/
def weightsOf : Except (Fault R) (Weights R) :=
  match (tables.user? identity).map UserRow.profile with
  | none => .ok service.config.weights
  | some profile =>
    if profile.weights.isAbsent then .ok service.config.weights
    else
      match Weights.ofStored profile.weights with
      | .ok weights => .ok weights
      | .error (.configuration _) => .ok service.config.weights
      | .error fault => .error fault

/-- The weights that a request is ranked by: those of its reader with the overrides of the
request. -/
def weightsFor (query : FeedQuery R) : Except (Fault R) (Weights R) := do
  let own ← service.weightsOf tables query.identity
  (own.withOverrides query.overrides).mapError .refused

variable [Component C R]

omit service [Component C R] in
def readerWith (interest : Embedding C) (since : Timestamp) (saved : List (Post C)) :
    ReaderContext C R where
  interest := interest
  seen := .ofMarks (tables.seenSince identity since)
  topics := .ids (sortedIds (Topic.ofPosts saved))
  muted := (((tables.user? identity).map UserRow.profile).map (·.muted)).getD []

def readerOf (interest : Embedding C) : Except Breakdown (ReaderContext C R) := do
  let since ← retentionStart service.now service.config.ranking.seenRetentionDays
  let saved : List (Post C) ←
    (tables.recentSaves identity service.config.ranking.recentSavesLimit).mapM PostRow.post
  return readerWith tables identity interest since saved

def retrieve (index : Index C) (interest : Embedding C) (size : Nat) :
    Except Breakdown (List (Neighbour C R)) := do
  let limit : Int := size * service.config.ranking.overFetchFactor
  let hits ← index.search interest limit ⟨sortedIds (tables.blocked identity), []⟩
  hits.mapM Hit.neighbour

omit [Component C R] in
def authorsOf (posts : List (Post C)) : List Author :=
  (tables.users.filter fun user => (posts.map (·.author)).contains user.id).map UserRow.author

omit [Component C R] in
def visibleOf (posts : List (Post C)) : List (Post C) :=
  Viewpoint.visible ⟨identity, some ⟨sortedIds (tables.following identity),
    sortedIds (tables.blocked identity), authorsOf tables posts⟩⟩ posts

def selectNear (index : Index C) (interest : Embedding C) (size : Nat) :
    Except (Fault R) (Selection C R) := do
  let found ← (service.retrieve tables identity index interest size).mapError Fault.broken
  let rows := tables.posts.filter fun row => (found.map (·.id)).contains row.id
  let posts : List (Post C) ← (rows.mapM PostRow.post).mapError Fault.broken
  let stored := inFoundOrder found posts
  let reader ← (service.readerOf tables identity interest).mapError Fault.broken
  let visible := visibleOf tables identity stored
  let candidates ← candidatesOf service.config service.now reader found visible
  return ⟨authorsOf tables stored, visible, candidates⟩

def select (deployment : Deployment C R) (size : Nat) : Except (Fault R) (Selection C R) :=
  match (deployment.tables.user? identity).bind UserRow.interestVector with
  | none => .ok .nothing
  | some components => do
    match ← readInterest (.array components) with
    | none => return .nothing
    | some interest =>
      service.selectNear deployment.tables identity deployment.index interest size

end Service

section

variable [Score R] [Component C R]

variable (C) in
def Json.IsComponent (value : Json R) : Prop :=
  ∃ x : R, value.toReal = .ok x ∧ isNaN (Component.narrow x : C) = false

def PostId.IsCanonical (id : Text) : Prop := canonical? id = some id ∧ id.lower = id

variable (C) in
/-- Rows that are well formed: ids are canonical, vectors consist of numbers and keywords are texts. -/
structure Tables.IsSound (tables : Tables R) : Prop where
  dated : tables.IsDated
  stored : ∀ row ∈ tables.posts, row.flaw? = none
  named : ∀ row ∈ tables.posts, PostId.IsCanonical row.id
  embeddings : ∀ row ∈ tables.posts, ∀ entries, row.embedding = some entries →
    ∀ entry ∈ entries, entry.IsComponent C
  interests : ∀ user ∈ tables.users, ∀ components, user.interest = some components →
    ∀ component ∈ components, component.IsComponent C
  muted : ∀ user ∈ tables.users, ∀ keyword ∈ user.muted.getD [],
    keyword.isAbsent = true ∨ ∃ text, keyword = .string text

/-- Stores with rows that are well formed, and an index that has each id once and is asked. -/
structure Deployment.IsSound (deployment : Deployment C R) : Prop where
  tables : deployment.tables.IsSound C
  distinct : (deployment.index.points.map Point.id).Nodup
  written : ∀ point ∈ deployment.index.points, point.id.isWhole = true
  asked : deployment.fixedSearch = none

/-- A service with an accepted configuration. Its window of marks starts within the calendar, and
its history is not longer than the store can count. -/
structure Service.IsSound (service : Service R) : Prop where
  accepted : service.config.IsAccepted
  root : service.root.isWhole = true
  window : ∃ since,
    retentionStart service.now service.config.ranking.seenRetentionDays = .ok since
  history : Number.isWord service.config.ranking.recentSavesLimit = true

namespace Tables

variable {tables : Tables R} (sound : tables.IsSound C)

include sound

theorem post_isOk {row : PostRow R} (stored : row ∈ tables.posts) :
    ∃ post : Post C, row.post = .ok post := by
  have embedding : ∃ embedding : Option (Tensor C), row.storedEmbedding = .ok embedding := by
    unfold PostRow.storedEmbedding
    cases entries : row.embedding with
    | none => exact ⟨none, rfl⟩
    | some entries =>
      dsimp only
      -- Entries that are not as many as a vector has components count as none.
      split
      · obtain ⟨numbers, read⟩ := forall₂_of_ok (f := Json.toReal) fun entry member =>
          (sound.embeddings row stored _ ‹_› entry member).imp fun x both => both.1
        rw [Json.toTensor_numbers read]
        exact ⟨_, rfl⟩
      · exact ⟨none, rfl⟩
  obtain ⟨embedding, read⟩ := embedding
  exact ⟨_, by rw [PostRow.post, read]; rfl⟩

theorem posts_isOk {rows : List (PostRow R)} (stored : ∀ row ∈ rows, row ∈ tables.posts) :
    ∃ posts : List (Post C), rows.mapM PostRow.post = .ok posts :=
  mapM_isOk fun row member => post_isOk sound (stored row member)

omit [Score R] [Component C R] sound in
theorem mem_recentSaves {identity : Text} {limit : Int} {row : PostRow R}
    (member : row ∈ tables.recentSaves identity limit) : row ∈ tables.posts := by
  have saved : row ∈ (tables.latestSaves identity).filterMap fun mark => tables.post? mark.post := by
    unfold recentSaves limited at member
    split at member
    · exact member
    · exact List.mem_of_mem_take member
  obtain ⟨mark, _, found⟩ := List.mem_filterMap.1 saved
  exact List.mem_of_find?_eq_some found

end Tables

omit [Score R] [Component C R] in
theorem ids_of_neighbours {hits : List (Hit C R)} {found : List (Neighbour C R)}
    (read : hits.mapM Hit.neighbour = .ok found) :
    found.map Neighbour.id = hits.map Hit.id :=
  map_of_mapM (fun _ _ first => by
    obtain ⟨_, _, rfl⟩ := ok_of_map first
    rfl) read

section

variable {index : Index C} {query : Embedding C} {limit : Int} {exclusion : Exclusion}

def Index.Reports (index : Index C) (neighbour : Neighbour C R) : Prop :=
  ∃ point ∈ index.points, point.id = neighbour.id ∧ neighbour.vector = some point.direction

theorem Index.mem_search {hits : List (Hit C R)} (searched : index.search query limit exclusion =
      .ok hits) {found : List (Neighbour C R)} (read : hits.mapM Hit.neighbour = .ok found)
    {neighbour : Neighbour C R} (member : neighbour ∈ found) : index.Reports neighbour := by
  obtain ⟨_, _, searched⟩ := ok_of_bind searched
  cases searched
  obtain ⟨hit, inside, made⟩ := mem_of_mapM read member
  have reported := (Sorting.sortStrays_perm _ _ _).mem_iff.1 (List.mem_of_mem_take inside)
  obtain ⟨point, eligible, rfl⟩ := List.mem_map.1 reported
  rw [Index.neighbour_report] at made
  cases made
  exact ⟨point, (List.mem_filter.1 eligible).1, rfl, rfl⟩

/-- A search for a vector of numbers ends, and finds each id at most once that the index has at most
once. -/
theorem Index.search_isOk (checked : checkVector query = .ok ()) :
    ∃ (hits : List (Hit C R)) (found : List (Neighbour C R)),
      index.search query limit exclusion = .ok hits ∧ hits.mapM Hit.neighbour = .ok found ∧
        ((index.points.map Point.id).Nodup → (found.map Neighbour.id).Nodup) := by
  let left : Exclusion := ⟨exclusion.authors, exclusion.posts.filterMap PointId.canonical?⟩
  let eligible := index.points.filter fun point => !left.excludes point.id point.author
  let sorted := Sorting.sortStrays (fun hit : Hit C R => isNaN hit.score)
    (fun a b => lt b.score a.score) (eligible.map (report query))
  have searched : index.search query limit exclusion = .ok (sorted.take limit.toNat) := by
    rw [search, checked]
    rfl
  -- Hits are the eligible points in another order, up to the limit, so no id comes in twice.
  have shuffled : sorted.Perm (eligible.map (report query)) := Sorting.sortStrays_perm _ _ _
  have each : ∀ hit ∈ sorted.take limit.toNat, ∃ neighbour, Hit.neighbour hit = .ok neighbour := by
    intro hit member
    obtain ⟨point, _, rfl⟩ := List.mem_map.1 (shuffled.mem_iff.1 (List.mem_of_mem_take member))
    exact ⟨_, neighbour_report query point⟩
  obtain ⟨found, read⟩ := mapM_isOk each
  refine ⟨_, found, searched, read, fun distinct => ?_⟩
  rw [ids_of_neighbours read]
  refine ((List.take_sublist _ sorted).map Hit.id).nodup ?_
  refine (shuffled.map Hit.id).nodup_iff.2 ?_
  rw [List.map_map]
  exact (List.filter_sublist.map Point.id).nodup distinct

end

theorem Service.mem_retrieve {service : Service R} {tables : Tables R} {identity : Text}
    {index : Index C} {interest : Embedding C} {size : Nat} {found : List (Neighbour C R)}
    (retrieved : service.retrieve tables identity index interest size = .ok found)
    {neighbour : Neighbour C R} (member : neighbour ∈ found) : index.Reports neighbour := by
  obtain ⟨hits, searched, read⟩ := ok_of_bind retrieved
  exact Index.mem_search searched read member

theorem Service.retrieve_isOk (service : Service R) (tables : Tables R) (identity : Text)
    {index : Index C} (distinct : (index.points.map Point.id).Nodup) {interest : Embedding C}
    (checked : Index.checkVector interest = .ok ()) (size : Nat) :
    ∃ found, service.retrieve tables identity index interest size = .ok found ∧
      (found.map Neighbour.id).Nodup := by
  obtain ⟨hits, found, searched, read, once⟩ := Index.search_isOk checked
  refine ⟨found, ?_, once distinct⟩
  rw [retrieve, searched]
  exact read

omit [Score R] [Component C R] in
/-- What is in the order of finding has ids that were found, each as often. -/
theorem ids_inFoundOrder (found : List (Neighbour C R)) (posts : List (Post C)) :
    ((Service.inFoundOrder found posts).map Post.id).Sublist (found.map Neighbour.id) := by
  induction found with
  | nil => exact .slnil
  | cons neighbour rest ih =>
    unfold Service.inFoundOrder at ih ⊢
    rw [List.filterMap_cons]
    cases first : posts.find? fun post => post.id = neighbour.id with
    | none => exact ih.cons _
    | some post =>
      have same : post.id = neighbour.id := by simpa using List.find?_some first
      dsimp only
      rw [List.map_cons, List.map_cons, same]
      exact ih.cons_cons _

omit [Score R] [Component C R] in
theorem vectorOf_reports {index : Index C} {found : List (Neighbour C R)}
    (near : ∀ neighbour ∈ found, index.Reports neighbour) {posts : List (Post C)} {post : Post C}
    (member : post ∈ Service.inFoundOrder found posts) :
    ∃ v, vectorOf found post = some v.toTensor ∧ ∃ point ∈ index.points, point.direction = v := by
  obtain ⟨neighbour, inside, named⟩ :=
    List.mem_map.1 ((ids_inFoundOrder found posts).subset (List.mem_map_of_mem member))
  -- If several neighbours have the id the last one counts, but each has a vector.
  cases last : neighbour? found post.id with
  | none =>
    have missing := List.find?_eq_none.1 last neighbour (List.mem_reverse.2 inside)
    exact absurd (decide_eq_true named) missing
  | some other =>
    obtain ⟨point, there, -, vector⟩ :=
      near other (List.mem_reverse.1 (List.mem_of_find?_eq_some last))
    refine ⟨point.direction, ?_, point, there, rfl⟩
    rw [vectorOf, last, Option.bind_some, vector]

theorem Service.vectors_of_visible {service : Service R} {tables : Tables R} {identity : Text}
    {index : Index C} {interest : Embedding C} {size : Nat} {found : List (Neighbour C R)}
    (retrieved : service.retrieve tables identity index interest size = .ok found)
    (posts : List (Post C)) :
    ∀ post ∈ visibleOf tables identity (inFoundOrder found posts),
      ∃ v, vectorOf found post = some v.toTensor ∧ ∃ point ∈ index.points, point.direction = v :=
  fun _ member => vectorOf_reports (fun _ => mem_retrieve retrieved) (List.mem_filter.1 member).1

omit [Score R] [Component C R] in
theorem embeddings_of_vectors {found : List (Neighbour C R)} {P : Embedding C → Prop}
    {posts : List (Post C)}
    (vectors : ∀ post ∈ posts, ∃ v, vectorOf found post = some v.toTensor ∧ P v) :
    ∃ embeddings : List (Embedding C),
      posts.map (vectorOf found) = embeddings.map (fun v => some v.toTensor) ∧
        ∀ v ∈ embeddings, P v := by
  induction posts with
  | nil => exact ⟨[], rfl, fun _ member => absurd member List.not_mem_nil⟩
  | cons post rest ih =>
    obtain ⟨v, first, holds⟩ := vectors post List.mem_cons_self
    obtain ⟨later, same, all⟩ := ih fun other member =>
      vectors other (List.mem_cons_of_mem _ member)
    exact ⟨v :: later, by rw [List.map_cons, List.map_cons, first, same],
      List.forall_mem_cons.2 ⟨holds, all⟩⟩

omit [Component C R] in
theorem rateOf_real [SignRules R] {rate : R} (positive : lt zero rate = true) :
    (rateOf (.real rate) : Except (Fault R) R) = .ok rate := by
  obtain ⟨above, number⟩ := SignRules.positive rate positive
  rw [rateOf, above, number]
  rfl

omit [Component C R] in
theorem privacyScore?_isOk {muted : List (Json R)}
    (keywords : ∀ keyword ∈ muted, keyword.isAbsent = true ∨ ∃ text, keyword = .string text)
    (post : Post C) : ∃ score : R, privacyScore? muted post = .ok score := by
  unfold privacyScore?
  dsimp only
  induction muted with
  | nil => exact ⟨one, rfl⟩
  | cons keyword rest ih =>
    have later := ih fun other member => keywords other (List.mem_cons_of_mem _ member)
    have first := keywords keyword List.mem_cons_self
    -- The search stops at the first text that is found, and breaks at what is present but no text.
    cases keyword with
    | string text =>
      simp only [privacyScore?.search]
      split
      · exact ⟨_, rfl⟩
      · exact later
    | null | bool | int | real | array | object =>
      have absent := first.resolve_right (by simp)
      simp only [privacyScore?.search]
      rw [if_pos absent]
      exact later

def SeenMap.IsZoned (seen : SeenMap) : Prop := ∀ mark ∈ seen, ∃ moment, mark.2 = some moment

omit [Score R] [Component C R] in
theorem SeenMap.isZoned_ofMarks (marks : List (Text × Timestamp)) : (ofMarks marks).IsZoned := by
  intro mark member
  obtain ⟨pair, _, rfl⟩ := List.mem_map.1 member
  exact ⟨pair.2, rfl⟩

theorem candidateOf_isOk [SignRules R] {config : Config R} (accepted : config.IsAccepted)
    (now : Timestamp) {reader : ReaderContext C R} (zoned : reader.seen.IsZoned)
    (keywords : ∀ keyword ∈ reader.muted, keyword.isAbsent = true ∨ ∃ text, keyword = .string text)
    (found : List (Neighbour C R)) (post : Post C) (vector : Option (Embedding C)) :
    ∃ c, candidateOf config now reader found post vector = .ok c := by
  -- Only a mark without an offset could not be compared with the present.
  obtain ⟨days, counted⟩ : ∃ days, daysSinceSeen config now reader.seen post.id = .ok days := by
    unfold daysSinceSeen
    cases mark : reader.seen.find? post.id with
    | none => exact ⟨none, rfl⟩
    | some moment =>
      obtain ⟨entry, first, rfl⟩ := Option.map_eq_some_iff.1 mark
      obtain ⟨moment, dated⟩ := zoned entry (List.mem_of_find?_eq_some first)
      rw [dated]
      dsimp only
      split
      · exact ⟨none, rfl⟩
      · exact ⟨_, rfl⟩
  have rate := Config.keeps_of_accepted accepted .decayRate (by decide)
  obtain ⟨privacy, kept⟩ := privacyScore?_isOk keywords post
  unfold candidateOf candidateWith recency?
  rw [counted, rateOf_real (by simpa [Config.breaks] using rate), kept]
  exact ⟨_, rfl⟩

theorem posts_of_candidates {config : Config R} {now : Timestamp} {reader : ReaderContext C R}
    {found : List (Neighbour C R)} {pairs : List (Post C × Option (Embedding C))}
    {candidates : List (Candidate C R)}
    (made : pairs.mapM (fun pair => candidateOf config now reader found pair.1 pair.2) =
      .ok candidates) : candidates.map Candidate.post = pairs.map Prod.fst :=
  map_of_mapM (fun _ _ first => post_of_candidateOf first) made

theorem mem_candidatesOf {config : Config R} {now : Timestamp} {reader : ReaderContext C R}
    {found : List (Neighbour C R)} {posts : List (Post C)} {P : Embedding C → Prop}
    (vectors : ∀ post ∈ posts, ∃ v, vectorOf found post = some v.toTensor ∧ P v)
    {candidates : List (Candidate C R)}
    (made : candidatesOf config now reader found posts = .ok candidates)
    {c : Candidate C R} (member : c ∈ candidates) :
    ∃ post v, P v ∧ candidateOf config now reader found post (some v) = .ok c := by
  obtain ⟨embeddings, all, hold⟩ := embeddings_of_vectors vectors
  rw [candidatesOf_eq, all, readVectors_embeddings] at made
  obtain ⟨⟨post, vector⟩, inside, ended⟩ := mem_of_mapM made member
  obtain ⟨v, there, rfl⟩ := List.mem_map.1 (List.of_mem_zip inside).2
  exact ⟨post, v, hold v there, ended⟩

theorem candidatesOf_isOk [SignRules R] {config : Config R} (accepted : config.IsAccepted)
    (now : Timestamp) (reader : ReaderContext C R) (zoned : reader.seen.IsZoned)
    (keywords : ∀ keyword ∈ reader.muted, keyword.isAbsent = true ∨ ∃ text, keyword = .string text)
    {found : List (Neighbour C R)} {posts : List (Post C)} {P : Embedding C → Prop}
    (vectors : ∀ post ∈ posts, ∃ v, vectorOf found post = some v.toTensor ∧ P v) :
    ∃ candidates, candidatesOf config now reader found posts = .ok candidates ∧
      candidates.map Candidate.post = posts := by
  obtain ⟨embeddings, all, -⟩ := embeddings_of_vectors vectors
  have length : posts.length = (embeddings.map some).length := by
    have lengths := congrArg List.length all
    rw [List.length_map, List.length_map] at lengths
    rw [List.length_map, lengths]
  have each : ∀ pair ∈ posts.zip (embeddings.map some),
      ∃ c, candidateOf config now reader found pair.1 pair.2 = .ok c :=
    fun pair _ => candidateOf_isOk accepted now zoned keywords found pair.1 pair.2
  obtain ⟨candidates, made⟩ := mapM_isOk each
  refine ⟨candidates, ?_, ?_⟩
  · rw [candidatesOf_eq, all, readVectors_embeddings]
    exact made
  · rw [posts_of_candidates made, List.map_fst_zip (by omega)]

/-- What is true of every selection: the candidates are the visible posts, no two of them have one
id, all have rows, and no signal is below zero. -/
structure Selection.IsFaithful (tables : Tables R) (selection : Selection C R) : Prop where
  posts : selection.candidates.map Candidate.post = selection.visible
  distinct : (selection.visible.map Post.id).Nodup
  stored : ∀ post ∈ selection.visible, ∃ row ∈ tables.posts, row.id = post.id
  up : ∀ c ∈ selection.candidates, c.IsUp

omit [Component C R] in
theorem Selection.nothing_isFaithful (tables : Tables R) :
    (Selection.nothing : Selection C R).IsFaithful tables where
  posts := rfl
  distinct := List.nodup_nil
  stored _ member := absurd member List.not_mem_nil
  up _ member := absurd member List.not_mem_nil

theorem Tables.IsSound.keywords {tables : Tables R} (sound : tables.IsSound C)
    (identity : Text) :
    ∀ keyword ∈ (((tables.user? identity).map UserRow.profile).map (·.muted)).getD [],
      keyword.isAbsent = true ∨ ∃ text, keyword = .string text := by
  cases found : tables.user? identity with
  | none => exact fun keyword member => absurd member List.not_mem_nil
  | some user => exact sound.muted user (List.mem_of_find?_eq_some found)

theorem Service.readerOf_eq {service : Service R} {tables : Tables R} {identity : Text}
    {since : Timestamp} {saved : List (Post C)} (interest : Embedding C)
    (start : retentionStart service.now service.config.ranking.seenRetentionDays = .ok since)
    (read : (tables.recentSaves identity service.config.ranking.recentSavesLimit).mapM
      PostRow.post = .ok saved) :
    service.readerOf tables identity interest =
      .ok (readerWith tables identity interest since saved) := by
  rw [readerOf, start]
  change (List.mapM PostRow.post (tables.recentSaves identity _) >>= _) = _
  rw [read]
  rfl

theorem Service.readerOf_isOk {service : Service R} (ready : service.IsSound) {tables : Tables R}
    (sound : tables.IsSound C) (identity : Text) (interest : Embedding C) :
    ∃ since saved, service.readerOf tables identity interest =
      .ok (readerWith tables identity interest since saved) := by
  obtain ⟨since, start⟩ := ready.window
  have rows : ∀ row ∈ tables.recentSaves identity service.config.ranking.recentSavesLimit,
      row ∈ tables.posts := fun row member => Tables.mem_recentSaves member
  obtain ⟨saved, read⟩ := Tables.posts_isOk sound rows
  exact ⟨since, saved, readerOf_eq interest start read⟩

theorem Service.selectNear_isOk [SignRules R] {service : Service R} (ready : service.IsSound)
    {tables : Tables R} (sound : tables.IsSound C) (identity : Text) {index : Index C}
    (distinct : (index.points.map Point.id).Nodup) {interest : Embedding C}
    (checked : Index.checkVector interest = .ok ()) (size : Nat) :
    ∃ selection, service.selectNear tables identity index interest size = .ok selection ∧
      selection.IsFaithful tables := by
  obtain ⟨found, retrieved, once⟩ := service.retrieve_isOk tables identity distinct checked size
  let rows := tables.posts.filter fun row => (found.map (·.id)).contains row.id
  have inside : ∀ row ∈ rows, row ∈ tables.posts := fun row member => (List.mem_filter.1 member).1
  obtain ⟨posts, read⟩ := Tables.posts_isOk sound inside
  obtain ⟨since, saved, known⟩ := readerOf_isOk ready sound identity interest
  let stored := inFoundOrder found posts
  have ids := ids_inFoundOrder found posts
  have visible : (visibleOf tables identity stored).Sublist stored := List.filter_sublist
  obtain ⟨candidates, made, same⟩ := candidatesOf_isOk ready.accepted service.now
    (readerWith tables identity interest since saved) (SeenMap.isZoned_ofMarks _)
    (sound.keywords identity) (vectors_of_visible retrieved posts)
  -- Ids are distinct from the index on: neither the order nor the filter repeats a post.
  refine ⟨⟨authorsOf tables stored, visibleOf tables identity stored, candidates⟩, ?_, same, ?_, ?_,
    isUp_of_candidatesOf ready.accepted made⟩
  · unfold selectNear
    rw [retrieved]
    change ((List.mapM PostRow.post rows).mapError _ >>= _) = _
    rw [read]
    change ((readerOf service tables identity interest).mapError _ >>= _) = _
    rw [known]
    change (candidatesOf _ _ _ _ _ >>= _) = _
    rw [made]
    rfl
  · exact ((visible.map Post.id).trans ids).nodup once
  · intro post member
    obtain ⟨row, there, found⟩ := mem_of_mapM read (mem_inFoundOrder (visible.subset member))
    obtain ⟨embedding, _, rfl⟩ := ok_of_map found
    exact ⟨row, inside row there, rfl⟩

/-- Nothing is selected, or what lies near the interest that is stored for the reader. -/
theorem Service.nothing_or_near {service : Service R} {deployment : Deployment C R}
    {identity : Text} {size : Nat} {selection : Selection C R}
    (selected : service.select identity deployment size = .ok selection) :
    selection = .nothing ∨ ∃ user components interest, user ∈ deployment.tables.users ∧
      user.interest = some components ∧ readInterest (.array components) = .ok (some interest) ∧
      service.selectNear deployment.tables identity deployment.index interest size =
        .ok selection := by
  unfold select at selected
  cases stored : (deployment.tables.user? identity).bind UserRow.interestVector with
  | none =>
    rw [stored] at selected
    exact .inl (Except.ok.inj selected).symm
  | some components =>
    rw [stored] at selected
    obtain ⟨interest, read, selected⟩ := ok_of_bind selected
    cases interest with
    | none => exact .inl (Except.ok.inj selected).symm
    | some interest =>
      obtain ⟨user, found, kept⟩ := Option.bind_eq_some_iff.1 stored
      exact .inr ⟨user, components, interest, List.mem_of_find?_eq_some found,
        (Option.filter_eq_some_iff.1 kept).1, read, selected⟩

/-- What is selected are candidates for the reader as the rows of the tables have it, each with a
vector of the index. -/
theorem Service.candidate_of_select {service : Service R} {deployment : Deployment C R}
    {identity : Text} {size : Nat} {selection : Selection C R}
    (selected : service.select identity deployment size = .ok selection) {c : Candidate C R}
    (member : c ∈ selection.candidates) :
    ∃ user ∈ deployment.tables.users, ∃ components interest since saved found post,
      ∃ point ∈ deployment.index.points, user.interest = some components ∧
        readInterest (.array components) = .ok (some interest) ∧
        retentionStart service.now service.config.ranking.seenRetentionDays = .ok since ∧
        candidateOf service.config service.now
          (readerWith deployment.tables identity interest since saved) found post
          (some point.direction) = .ok c := by
  rcases nothing_or_near selected with
    rfl | ⟨user, components, interest, inside, given, read, selected⟩
  · cases member
  -- The steps of the selection, each of which ended well.
  · obtain ⟨found, retrieved, selected⟩ := ok_of_bind selected
    obtain ⟨posts, rows, selected⟩ := ok_of_bind selected
    obtain ⟨reader, known, selected⟩ := ok_of_bind selected
    obtain ⟨candidates, made, selected⟩ := ok_of_bind selected
    cases selected
    obtain ⟨post, v, ⟨point, there, rfl⟩, ended⟩ :=
      mem_candidatesOf (vectors_of_visible (ok_of_mapError retrieved) posts) made member
    obtain ⟨since, start, known⟩ := ok_of_bind (ok_of_mapError known)
    obtain ⟨saved, _, known⟩ := ok_of_bind known
    cases known
    exact ⟨user, inside, components, interest, since, saved, found, post, point, there, given,
      read, start, ended⟩

theorem mem_of_readInterest {components : List (Json R)}
    (numbers : ∀ component ∈ components, component.IsComponent C) {interest : Embedding C}
    (read : Service.readInterest (.array components) = .ok (some interest)) :
    ∀ c ∈ interest.components, ∃ component ∈ components, ∃ x, component.toReal = .ok x ∧
      c = Component.narrow x := by
  obtain ⟨values, each⟩ := mapM_isOk fun component member =>
    (numbers component member).imp fun x both => both.1
  rw [readInterest_numbers ((mapM_ok_iff _ _ _).1 each)] at read
  have made := Except.ok.inj read
  unfold Embedding.ofArray? at made
  split at made
  · cases made
    intro c member
    obtain ⟨x, inside, rfl⟩ := List.mem_map.1 (List.mem_toArray.1 member)
    obtain ⟨component, there, found⟩ := mem_of_mapM each inside
    exact ⟨component, there, x, found, rfl⟩
  · cases made

theorem checkVector_of_interest {components : List (Json R)}
    (numbers : ∀ component ∈ components, component.IsComponent C) :
    ∃ interest : Option (Embedding C), Service.readInterest (.array components) = .ok interest ∧
      ∀ v, interest = some v → Index.checkVector v = .ok () := by
  obtain ⟨values, each⟩ := mapM_isOk fun component member =>
    (numbers component member).imp fun x both => both.1
  have read := readInterest_numbers (C := C) ((mapM_ok_iff _ _ _).1 each)
  refine ⟨_, read, fun v made => if_neg ?_⟩
  rw [Array.any_eq_true']
  rintro ⟨c, member, undefined⟩
  rw [made] at read
  obtain ⟨component, there, x, found, rfl⟩ := mem_of_readInterest numbers read c member
  obtain ⟨y, found', number⟩ := numbers component there
  rw [found] at found'
  cases found'
  rw [number] at undefined
  cases undefined

theorem Service.select_isOk [SignRules R] {service : Service R} (ready : service.IsSound)
    {deployment : Deployment C R} (sound : deployment.IsSound) (identity : Text) (size : Nat) :
    ∃ selection, service.select identity deployment size = .ok selection ∧
      selection.IsFaithful deployment.tables := by
  cases stored : (deployment.tables.user? identity).bind UserRow.interestVector with
  | none => exact ⟨.nothing, by rw [select, stored], Selection.nothing_isFaithful _⟩
  | some components =>
    obtain ⟨user, found, kept⟩ := Option.bind_eq_some_iff.1 stored
    obtain ⟨interest, read, checked⟩ := checkVector_of_interest
      (sound.tables.interests user (List.mem_of_find?_eq_some found) components
        (Option.filter_eq_some_iff.1 kept).1)
    -- A list of another width is no interest, so nothing is selected for it.
    cases interest with
    | none =>
      refine ⟨.nothing, ?_, Selection.nothing_isFaithful _⟩
      rw [select, stored]
      dsimp only
      rw [read]
      rfl
    | some interest =>
      obtain ⟨selection, selected, faithful⟩ := selectNear_isOk ready sound.tables identity
        sound.distinct (checked interest rfl) size
      refine ⟨selection, ?_, faithful⟩
      rw [select, stored]
      dsimp only
      rw [read]
      exact selected

end

end PersonalFeed
