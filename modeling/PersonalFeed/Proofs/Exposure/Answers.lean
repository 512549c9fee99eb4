import PersonalFeed.Feed.Item
import PersonalFeed.Proofs.Exposure.Loading
import PersonalFeed.Store.Query
import PersonalFeed.Visibility

/-!
What answers show. Who may be shown whose posts is told by the tables alone: what a reader sees by
edges that agree with the tables is permitted, and edges that were lost only hide. Cached sets of
edges are those of the tables, and cached answers show nothing but what their requester may be
shown. A request that relies on this shows nothing else either and stores nothing else, whichever of
its parts are lost and whatever the index reports: lost blocks or authors leave the own posts only,
and lost follows hide private authors.
-/

set_option autoImplicit false

namespace PersonalFeed

variable {C R : Type}

/-- A reader may be shown the own posts, and those of an author with whom there is no block in
either direction and who is public or followed by the reader. -/
def Tables.Permits (tables : Tables R) (reader author : Text) : Prop :=
  author = reader ∨
    ((reader, author) ∉ tables.blocks ∧ (author, reader) ∉ tables.blocks ∧
      ∃ user ∈ tables.users, user.id = author ∧
        (user.isPrivate = false ∨ (reader, author) ∈ tables.follows))

def Tables.MayShow (tables : Tables R) (reader : Text) (item : FeedItem R) : Prop :=
  (∃ row ∈ tables.posts, row.id = item.postId ∧ row.author = item.authorId) ∧
    tables.Permits reader item.authorId

def Tables.HasPost (tables : Tables R) (post : Post C) : Prop :=
  ∃ row ∈ tables.posts, row.id = post.id ∧ row.author = post.author ∧
    row.createdAt = post.createdAt

def Tables.Dates (tables : Tables R) (item : FeedItem R) : Prop :=
  ∃ row ∈ tables.posts, item.createdAt = .ofTimestamp row.createdAt

namespace Tables

variable {tables : Tables R} {reader author : Text}

theorem notMem_blocks (other : author ≠ reader) (unblocked : author ∉ tables.blocked reader) :
    (reader, author) ∉ tables.blocks ∧ (author, reader) ∉ tables.blocks := by
  have absent (edge : Text × Text) (member : edge ∈ tables.blocks)
      (side : edge.1 = reader ∨ edge.2 = reader)
      (far : (if edge.1 = reader then edge.2 else edge.1) = author) : False := by
    refine unblocked (List.mem_eraseDups.2 (List.mem_filter.2 ⟨?_, by simpa using other⟩))
    exact List.mem_map.2 ⟨edge, List.mem_filter.2 ⟨member, by simpa using side⟩, far⟩
  constructor
  · intro member
    exact absent _ member (.inl rfl) (if_pos rfl)
  · intro member
    exact absent _ member (.inr rfl) (if_neg other)

theorem mem_blocked (differ : reader ≠ author)
    (edge : (reader, author) ∈ tables.blocks ∨ (author, reader) ∈ tables.blocks) :
    author ∈ tables.blocked reader := by
  refine Decidable.byContradiction fun absent => ?_
  obtain ⟨ours, theirs⟩ := notMem_blocks differ.symm absent
  exact edge.elim ours theirs

theorem mem_blocked_of_side {actor target party other : Text}
    (made : (actor, target) ∈ tables.blocks) (side : party ∈ [actor, target])
    (far : other ∈ [actor, target]) (differ : party ≠ other) : other ∈ tables.blocked party := by
  refine mem_blocked differ ?_
  simp only [List.mem_cons, List.not_mem_nil, or_false] at side far
  rcases side with rfl | rfl <;> rcases far with rfl | rfl
  · exact absurd rfl differ
  · exact .inl made
  · exact .inr made
  · exact absurd rfl differ

theorem follows_of_following (followed : author ∈ tables.following reader) :
    (reader, author) ∈ tables.follows := by
  obtain ⟨edge, member, rfl⟩ := List.mem_map.1 (List.mem_eraseDups.1 followed)
  obtain ⟨stored, follower⟩ := List.mem_filter.1 member
  rw [← of_decide_eq_true follower]
  exact stored

end Tables

/-- What is known about the people around a reader agrees with the tables: all blocks, no follow
that is not there, and no author that is not there. -/
structure Edges.AreTrue (tables : Tables R) (reader : Text) (edges : Edges) : Prop where
  blocked : ∀ id, id ∈ tables.blocked reader → id ∈ edges.blocked
  following : ∀ id, id ∈ edges.following → id ∈ tables.following reader
  authors : ∀ author ∈ edges.authors, ∃ user ∈ tables.users, user.author = author

/-- What a reader is shown by edges that agree with the tables is permitted. -/
theorem Viewpoint.permits_of_canSee {tables : Tables R} {view : Viewpoint}
    (faithful : ∀ edges, view.edges = some edges → edges.AreTrue tables view.requester)
    {author : Text} (shown : view.canSee author = true) :
    tables.Permits view.requester author := by
  cases (view.canSee_iff author).1 shown with
  | own same _ => exact .inl same
  | known edges profile loaded unblocked listed allowed =>
    obtain ⟨blocked, following, authors⟩ := faithful edges loaded
    by_cases same : author = view.requester
    · exact .inl same
    · have ⟨ours, theirs⟩ :=
        Tables.notMem_blocks same fun member => unblocked (blocked author member)
      have found : (edges.authors.reverse.find? fun other => other.id = author) = some profile := listed
      obtain ⟨user, stored, rfl⟩ :=
        authors profile (List.mem_reverse.1 (List.mem_of_find?_eq_some found))
      have named : user.author.id = author := by simpa using List.find?_some found
      refine .inr ⟨ours, theirs, user, stored, named, allowed.imp_right fun followed => ?_⟩
      exact Tables.follows_of_following (following author followed)

/-! ### Answers -/

/-- What a cached value may expose: the edges of the tables, and items that the owner of an answer
may be shown. -/
def Tables.Safe (tables : Tables R) : CacheKey → Json R → Prop
  | .follows identity, value => value = .ofTexts (sortedIds (tables.following identity))
  | .blocks identity, value => value = .ofTexts (sortedIds (tables.blocked identity))
  | .page identity _ _ _, value =>
    ∃ response : FeedResponse R, value = response.toJson ∧
      ∀ item ∈ response.items, tables.MayShow identity item
  | .similar _ requester _, value =>
    ∃ response : SimilarResponse R, value = response.toJson ∧
      ∀ item ∈ response.items, tables.MayShow requester item
  | _, _ => True

def exposureTerms [Scalar R] (root : Text) (tables : Tables R) : Terms C R where
  root := root
  asks query := query.isReading = true
  good := tables.Safe
  replies
    | .query query, reply => ∀ answer, reply = .answer answer →
        ∃ after, query.run tables = .ok (answer, after)
    | _, _ => True

def Tables.knowledge (tables : Tables R) (identity : Text) : Knowledge C where
  following set := set = .ids (sortedIds (tables.following identity))
  blocked set := set = .ids (sortedIds (tables.blocked identity))
  author author := ∃ user ∈ tables.users, user.author = author
  post := tables.HasPost

theorem Tables.dates_of_shows [Numeral R] {tables : Tables R} {known : Knowledge C} {reader : Text}
    {item : FeedItem R} (stored : ∀ post, known.post post → tables.HasPost post)
    (shows : known.Shows reader item) : tables.Dates item := by
  obtain ⟨view, scored, authors, sign, -, -, -, shown, rfl⟩ := shows
  obtain ⟨row, inside, -, -, dated⟩ := stored _ shown
  exact ⟨row, inside, congrArg ItemMoment.ofTimestamp dated.symm⟩

/-- What is seen by the edges of the tables may be shown, and has the moment of its post. -/
theorem Tables.mayShow_of_shows [Numeral R] {tables : Tables R} {reader : Text} {item : FeedItem R}
    (shows : (tables.knowledge (C := C) reader).Shows reader item) :
    tables.MayShow reader item ∧ tables.Dates item := by
  refine ⟨?_, tables.dates_of_shows (fun _ => id) shows⟩
  obtain ⟨view, scored, authors, sign, rfl, known, seen, ⟨row, inside, named, written, -⟩, rfl⟩ :=
    shows
  refine ⟨⟨row, inside, named, written⟩, view.permits_of_canSee (fun edges loaded => ?_) seen⟩
  obtain ⟨⟨set, rfl, blocked⟩, following, authors⟩ := known edges loaded
  refine ⟨fun id member => ?_, fun id member => ?_, authors⟩
  · rw [blocked]
    exact mem_sortedIds.2 member
  · obtain ⟨set, rfl, inside⟩ := following id member
    exact mem_sortedIds.1 inside

structure Contract.Reports [Scalar R] (contract : Contract C R) (tables : Tables R) : Prop where
  asks : ∀ query : Query R, query.isReading = true → contract.allows (.query query)
  answers : ∀ (query : Query R) (answer : query.Answer),
    contract.admits (.query query) (.answer answer) →
      ∃ after, query.run tables = .ok (answer, after)

theorem exposure_reports [Scalar R] {root : Text} {tables : Tables R} :
    (exposureTerms (C := C) root tables).contract.Reports tables :=
  ⟨fun _ reading => reading, fun _ answer admitted => admitted answer rfl⟩

namespace Service

section

variable {contract : Contract C R} {tables : Tables R}

theorem query_yields [Scalar R] (reports : contract.Reports tables) (query : Query R)
    {P : query.Answer → Prop} (reading : query.isReading = true)
    (holds : ∀ answer after, query.answer tables = .ok (answer, after) → P answer) :
    (Task.query query : Task C R _).Yields contract P := by
  refine Task.yields_query (reports.asks query reading) fun answer admitted => ?_
  obtain ⟨after, ran⟩ := reports.answers query answer admitted
  unfold Query.run at ran
  split at ran
  · cases ran
  · exact holds answer after ran

theorem hasPost_of_row [Numeral R] [Component C R] {row : PostRow R} {post : Post C}
    (stored : row ∈ tables.posts) (read : row.post = .ok post) : tables.HasPost post := by
  obtain ⟨embedding, _, rfl⟩ := ok_of_map read
  exact ⟨row, stored, rfl, rfl, rfl⟩

theorem fetchPosts_yields [Numeral R] [Component C R] (reports : contract.Reports tables)
    {ids : List Text} :
    (fetchPosts ids : Task C R (List (Post C))).Yields contract
      fun posts => ∀ post ∈ posts, tables.HasPost post := by
  unfold fetchPosts
  split
  · exact Task.yields_pure fun post member => absurd member List.not_mem_nil
  · refine Task.yields_bind (P := fun rows : List (PostRow R) => ∀ row ∈ rows, row ∈ tables.posts)
      ?_ ?_
    · refine query_yields reports (.content ids.eraseDups) rfl fun rows after answered => ?_
      cases answered
      exact fun row member => (List.mem_filter.1 member).1
    · intro rows stored
      refine Task.yields_ofBreakdown fun posts read post member => ?_
      obtain ⟨row, inside, found⟩ := mem_of_mapM read member
      exact hasPost_of_row (stored row inside) found

end

section

variable [Numeral R] {tables : Tables R} {service : Service R} {identity : Text}

theorem exposure_serves {root : Text} : (exposureTerms (C := C) root tables).contract.Serves :=
  Terms.serves fun _ reading => reading

/-- A set of edges is that of the tables, out of the cache or out of the store. -/
theorem loadEdges_yields {key : CacheKey} {load : Task C R (List Text)} {ids : List Text}
    (proper : key.IsProper)
    (safe : ∀ value : Json R, tables.Safe key value ↔ value = .ofTexts (sortedIds ids))
    (loads : load.Yields (exposureTerms service.root tables).contract (· = ids)) :
    (service.loadIds key load).Yields (exposureTerms service.root tables).contract
      (· = .ids (sortedIds ids)) := by
  refine loadIds_yields exposure_serves (fun value set found read => ?_)
    (Task.yields_mono loads fun loaded same => ?_)
  · obtain rfl := (safe value).1 (Terms.good_of_finds key proper found)
    rw [IdSet.ofJson_ofTexts (nodup_sortedIds _)] at read
    exact (Except.ok.inj read).symm
  · subst same
    exact ⟨Terms.takes key proper ((safe _).2 rfl), rfl⟩

theorem loadFollowing_yields :
    (service.loadFollowing identity : Task C R IdSet).Yields
      (exposureTerms service.root tables).contract
      (· = .ids (sortedIds (tables.following identity))) := by
  refine loadEdges_yields trivial (fun _ => Iff.rfl) ?_
  refine query_yields exposure_reports (.following identity) rfl fun ids after answered => ?_
  cases answered
  rfl

theorem loadBlocked_yields :
    (service.loadBlocked identity : Task C R IdSet).Yields
      (exposureTerms service.root tables).contract
      (· = .ids (sortedIds (tables.blocked identity))) := by
  refine loadEdges_yields trivial (fun _ => Iff.rfl) ?_
  refine query_yields exposure_reports (.blocked identity) rfl fun ids after answered => ?_
  cases answered
  rfl

theorem fetchAuthors_yields {root : Text} {ids : List Text} :
    (fetchAuthors ids : Task C R (List Author)).Yields (exposureTerms root tables).contract
      fun authors => ∀ author ∈ authors, ∃ user ∈ tables.users, user.author = author := by
  cases ids with
  | nil => exact Task.yields_pure fun author member => absurd member List.not_mem_nil
  | cons id rest =>
    refine query_yields exposure_reports (.authors (id :: rest).eraseDups) rfl
      fun authors after answered => ?_
    cases answered
    intro author member
    obtain ⟨user, inside, named⟩ := List.mem_map.1 member
    exact ⟨user, (List.mem_filter.1 inside).1, named⟩

theorem exposure_informs [Component C R] :
    (exposureTerms service.root tables).contract.Informs service identity
      (tables.knowledge (C := C) identity) where
  serves := exposure_serves
  takes key aside value := by
    have free : key.IsProper ∧ tables.Safe key value := by
      cases key with
      | follows | blocks | page | similar => exact aside.elim
      | interestVector | seen | topics | profile => exact ⟨trivial, trivial⟩
    exact Terms.takes key free.1 free.2
  following := loadFollowing_yields
  blocked := loadBlocked_yields
  posts _ := fetchPosts_yields exposure_reports
  authors _ := fetchAuthors_yields

end

variable [Score R] [Component C R] {tables : Tables R} {service : Service R}

theorem computePage_yields {query : FeedQuery R} :
    (service.computePage (C := C) query).Yields (exposureTerms service.root tables).contract
      fun page => ∀ item ∈ page.1.items,
        tables.MayShow query.identity item ∧ tables.Dates item :=
  Task.yields_mono (computePageBy_shows exposure_informs (gathers_loadContext service _))
    fun _ shows item member => Tables.mayShow_of_shows (shows item member)

theorem computeSimilar_yields {query : SimilarQuery} :
    (service.computeSimilar (C := C) query).Yields (exposureTerms service.root tables).contract
      fun answer => ∀ response, answer = some response → ∀ item ∈ response.items,
        tables.MayShow query.requester item ∧ tables.Dates item :=
  Task.yields_mono (computeSimilar_shows exposure_informs)
    fun _ shows response answered item member =>
      Tables.mayShow_of_shows (shows response answered item member)

theorem rankFeed_yields [PlainText R] {request : FeedRequest R} :
    (service.rankFeed (C := C) request).Yields (exposureTerms service.root tables).contract
      fun response => ∀ item ∈ response.items, tables.MayShow request.identity item := by
  refine rankFeedBy_shows exposure_informs (gathers_loadContext service)
    (fun item shows => (Tables.mayShow_of_shows shows).1) ?_ ?_
  · rintro key ⟨fingerprint, size, cursor, rfl⟩ proper value found response read
    have good : (exposureTerms (C := C) service.root tables).good _ value :=
      Terms.good_of_finds _ proper found
    obtain ⟨written, rfl, shown⟩ := good
    exact FeedResponse.items_of_read read fun item member _ => shown item member
  · rintro key ⟨fingerprint, size, cursor, rfl⟩ proper response shown
    exact Terms.takes _ proper ⟨response, rfl, fun item member =>
      (Tables.mayShow_of_shows (shown item member)).1⟩

theorem similarPosts_yields {request : SimilarRequest R} :
    (service.similarPosts (C := C) request).Yields (exposureTerms service.root tables).contract
      fun response => ∀ item ∈ response.items, tables.MayShow request.requester item := by
  refine similarPosts_shows exposure_informs
    (fun item shows => (Tables.mayShow_of_shows shows).1) ?_ ?_
  · rintro key ⟨post, limit, rfl⟩ proper value found response read
    have good : (exposureTerms (C := C) service.root tables).good _ value :=
      Terms.good_of_finds _ proper found
    obtain ⟨written, rfl, shown⟩ := good
    exact SimilarResponse.items_of_read read fun item member _ => shown item member
  · rintro key ⟨post, limit, rfl⟩ proper response shown
    exact Terms.takes _ proper ⟨response, rfl, fun item member =>
      (Tables.mayShow_of_shows (shown item member)).1⟩

end Service

end PersonalFeed
