import PersonalFeed.Proofs.Coherence.Stores
import PersonalFeed.Proofs.Pages.Selection
import PersonalFeed.Proofs.Paging

/-!
What a page comes to on stores that never fail: a slice of the ranking of what the reader selects.
The ranking does not depend on the cursor, so all pages of a walk are slices of one ranking.
-/

set_option autoImplicit false

namespace PersonalFeed

variable {C R : Type}

theorem columnFlaw?_eq_none {texts : List Text} {numbers : List Int}
    (whole : texts.all Text.isWhole = true) (small : numbers.all Number.isWord = true) :
    columnFlaw? texts numbers = none := by
  rw [columnFlaw?, whole, small]
  rfl

variable [Score R] [Component C R]

def Tables.Gives (tables : Tables R) (post : Post C) : Prop :=
  ∃ row ∈ tables.posts, row.post = .ok post

theorem Tables.IsSound.author_isWhole {tables : Tables R} (sound : tables.IsSound C)
    {post : Post C} (given : tables.Gives post) : post.author.isWhole = true := by
  obtain ⟨row, inside, made⟩ := given
  obtain ⟨embedding, _, rfl⟩ := ok_of_map made
  exact isWhole_of_columnFlaw? (sound.stored row inside) _ (by simp)

namespace Service

omit [Component C R] in
/-- What is known about a reader by the rows of the tables, the marks since a moment and some saved
posts. -/
def contextOf (tables : Tables R) (identity : Text) (since : Timestamp) (saved : List (Post C)) :
    FeedContext R where
  interest := some (((tables.user? identity).bind UserRow.interestVector).map Json.array)
  following := some (.ids (sortedIds (tables.following identity)))
  blocked := some (.ids (sortedIds (tables.blocked identity)))
  seen := some (.ofMarks (tables.seenSince identity since))
  topics := some (.ids (sortedIds (Topic.ofPosts saved)))
  profile := some ((tables.user? identity).map UserRow.profile)

variable {service : Service R} {deployment : Deployment C R} {identity : Text}

section

variable {answers : Answers C R} {key : CacheKey}

omit [Score R] [Component C R] in
theorem written_of_whole (key : CacheKey) (root : service.root.isWhole = true)
    (parts : key.parts.all Text.isWhole = true) : (service.key key).toString? ≠ none := by
  have whole : (service.key key).isWhole = true := by
    rw [Service.key, CacheKey.text, CacheKey.isWhole_join, root, parts]
    rfl
  rw [← Text.toString?_isSome, Option.isSome_iff_ne_none] at whole
  exact whole

omit [Component C R] in
theorem eval_loadIds (cold : answers.IsCold) (written : (service.key key).toString? ≠ none)
    {load : Task C R (List Text)} {ids : List Text} (loaded : load.eval answers = .ok ids) :
    (service.loadIds key load).eval answers = .ok (.ids (sortedIds ids)) := by
  rw [loadIds, Task.eval_bind_ok (eval_cached cold written)]
  dsimp only
  rw [Task.eval_bind_ok loaded]
  exact Task.eval_bind_ok (eval_keep written _) _

end

theorem eval_query_of_answer (deployment : Deployment C R) (query : Query R)
    (flawless : query.flaw? = none) {answer : query.Answer} {after : Tables R}
    (answered : query.answer deployment.tables = .ok (answer, after)) :
    (Task.query query : Task C R query.Answer).eval deployment.answers = .ok answer := by
  refine Task.eval_query ?_
  rw [Deployment.answers_query, Query.run, flawless]
  dsimp only
  rw [answered]
  rfl

omit [Component C R] in
theorem eval_profileWeights (service : Service R) (tables : Tables R) (identity : Text)
    (answers : Answers C R) :
    (service.profileWeights ((tables.user? identity).map UserRow.profile)).eval answers =
      (service.weightsOf tables identity).mapError .fault := by
  unfold profileWeights weightsOf
  cases (tables.user? identity).map UserRow.profile with
  | none => rfl
  | some profile =>
    dsimp only
    split
    · rfl
    · cases Weights.ofStored profile.weights with
      | ok weights => rfl
      | error fault => cases fault <;> rfl

theorem eval_findNeighbours (asked : deployment.fixedSearch = none) {interest : Embedding C}
    {size : Nat} (positive : 0 < (size * service.config.ranking.overFetchFactor : Int))
    {found : List (Neighbour C R)}
    (retrieved : service.retrieve deployment.tables identity deployment.index interest size =
      .ok found) :
    (findNeighbours interest (size * service.config.ranking.overFetchFactor)
      (.ids (sortedIds (deployment.tables.blocked identity))) []).eval deployment.answers =
      .ok found := by
  obtain ⟨hits, searched, read⟩ := ok_of_bind retrieved
  rw [findNeighbours, if_neg (by omega)]
  refine (Task.eval_bind_ok rfl _).trans ((Task.eval_bind_ok (Task.eval_ask _) _).trans ?_)
  rw [Deployment.answers_search, asked]
  dsimp only
  rw [searched]
  refine (Task.eval_bind_ok rfl _).trans ?_
  rw [read]
  rfl

theorem contains_eraseDups (ids : List Text) (id : Text) :
    ids.eraseDups.contains id = ids.contains id := by
  rw [Bool.eq_iff_iff, List.contains_iff_mem, List.contains_iff_mem, List.mem_eraseDups]

theorem eval_fetchPosts {ids : List Text} (whole : ∀ id ∈ ids, id.isWhole = true)
    {posts : List (Post C)}
    (read : (deployment.tables.posts.filter fun row => ids.contains row.id).mapM PostRow.post =
      .ok posts) : (fetchPosts ids).eval deployment.answers = .ok posts := by
  cases ids with
  | nil =>
    -- Without ids the store is not asked, and it has no row to answer with either.
    have none : (deployment.tables.posts.filter fun row => ([] : List Text).contains row.id) = [] :=
      List.filter_eq_nil_iff.2 fun row _ => by simp
    rw [none] at read
    cases read
    rfl
  | cons id ids =>
    have flawless : (Query.content (id :: ids).eraseDups : Query R).flaw? = none := by
      refine columnFlaw?_eq_none (List.all_eq_true.2 fun id member => ?_) rfl
      exact whole id (List.mem_eraseDups.1 member)
    have asked := eval_query_of_answer deployment (.content (id :: ids).eraseDups) flawless rfl
    refine (Task.eval_bind_ok asked _).trans ?_
    simp only [contains_eraseDups]
    rw [read]
    rfl

theorem eval_fetchAuthors (deployment : Deployment C R) {posts : List (Post C)}
    (whole : ∀ post ∈ posts, post.author.isWhole = true) :
    (fetchAuthors (posts.map (·.author))).eval deployment.answers =
      .ok (authorsOf deployment.tables posts) := by
  cases posts with
  | nil =>
    have none : (deployment.tables.users.filter fun user => ([] : List Text).contains user.id) =
        [] := List.filter_eq_nil_iff.2 fun user _ => by simp
    rw [authorsOf, List.map_nil, none]
    rfl
  | cons post rest =>
    have flawless : (Query.authors ((post :: rest).map (·.author)).eraseDups : Query R).flaw? =
        none := by
      refine columnFlaw?_eq_none (List.all_eq_true.2 fun id member => ?_) rfl
      obtain ⟨post, inside, rfl⟩ := List.mem_map.1 (List.mem_eraseDups.1 member)
      exact whole post inside
    have asked := eval_query_of_answer deployment (.authors ((post :: rest).map (·.author)).eraseDups)
      flawless rfl
    refine asked.trans ?_
    simp only [contains_eraseDups]
    rfl

section

variable (root : service.root.isWhole = true) (whole : identity.isWhole = true)

include whole

omit root in
theorem single_isWhole : [identity].all Text.isWhole = true := by
  rw [List.all_cons, whole]
  rfl

include root

theorem eval_loadFollowing :
    (service.loadFollowing identity).eval deployment.answers =
      .ok (.ids (sortedIds (deployment.tables.following identity))) :=
  eval_loadIds deployment.isCold_answers
    (written_of_whole (.follows identity) root (single_isWhole whole))
    (eval_query_of_answer deployment (.following identity)
      (columnFlaw?_eq_none (single_isWhole whole) rfl) rfl)

theorem eval_loadBlocked :
    (service.loadBlocked identity).eval deployment.answers =
      .ok (.ids (sortedIds (deployment.tables.blocked identity))) :=
  eval_loadIds deployment.isCold_answers
    (written_of_whole (.blocks identity) root (single_isWhole whole))
    (eval_query_of_answer deployment (.blocked identity)
      (columnFlaw?_eq_none (single_isWhole whole) rfl) rfl)

theorem eval_loadInterest :
    (service.loadInterest identity).eval deployment.answers =
      .ok (((deployment.tables.user? identity).bind UserRow.interestVector).map Json.array) := by
  have written := written_of_whole (.interestVector identity) root (single_isWhole whole)
  have asked : (Task.query (.interestVector identity) : Task C R _).eval deployment.answers =
      .ok ((deployment.tables.user? identity).bind UserRow.interestVector) :=
    eval_query_of_answer deployment (.interestVector identity)
      (columnFlaw?_eq_none (single_isWhole whole) rfl) rfl
  rw [loadInterest, Task.eval_bind_ok (eval_cached deployment.isCold_answers written)]
  refine (Task.eval_bind_ok asked _).trans ?_
  cases (deployment.tables.user? identity).bind UserRow.interestVector with
  | none => rfl
  | some components => exact Task.eval_bind_ok (eval_keep written _) _

theorem eval_loadProfile :
    (service.loadProfile identity).eval deployment.answers =
      .ok ((deployment.tables.user? identity).map UserRow.profile) := by
  have written := written_of_whole (.profile identity) root (single_isWhole whole)
  have asked : (Task.query (.profile identity) : Task C R _).eval deployment.answers =
      .ok ((deployment.tables.user? identity).map UserRow.profile) :=
    eval_query_of_answer deployment (.profile identity)
      (columnFlaw?_eq_none (single_isWhole whole) rfl) rfl
  rw [loadProfile, Task.eval_bind_ok (eval_cached deployment.isCold_answers written)]
  refine (Task.eval_bind_ok asked _).trans ?_
  exact Task.eval_bind_ok (eval_keep written _) _

theorem eval_loadSeen {since : Timestamp}
    (start : retentionStart service.now service.config.ranking.seenRetentionDays = .ok since) :
    (service.loadSeen identity).eval deployment.answers =
      .ok (SeenMap.ofMarks (deployment.tables.seenSince identity since)) := by
  have written := written_of_whole (.seen identity) root (single_isWhole whole)
  have asked : (Task.query (.seen identity since) : Task C R _).eval deployment.answers =
      .ok (deployment.tables.seenSince identity since) :=
    eval_query_of_answer deployment (.seen identity since)
      (columnFlaw?_eq_none (single_isWhole whole) rfl) rfl
  rw [loadSeen, Task.eval_bind_ok (eval_cached deployment.isCold_answers written)]
  dsimp only
  rw [start]
  refine (Task.eval_bind_ok rfl _).trans ?_
  refine (Task.eval_bind_ok asked _).trans ?_
  exact Task.eval_bind_ok (eval_keep written _) _

theorem eval_loadTopics (small : Number.isWord service.config.ranking.recentSavesLimit = true)
    {saved : List (Post C)}
    (read : (deployment.tables.recentSaves identity
      service.config.ranking.recentSavesLimit).mapM PostRow.post = .ok saved) :
    (service.loadTopics (C := C) identity).eval deployment.answers =
      .ok (.ids (sortedIds (Topic.ofPosts saved))) := by
  refine eval_loadIds deployment.isCold_answers
    (written_of_whole (.topics identity) root (single_isWhole whole)) ?_
  have asked : (Task.query (.recentSaves identity service.config.ranking.recentSavesLimit) :
      Task C R _).eval deployment.answers =
      .ok (deployment.tables.recentSaves identity service.config.ranking.recentSavesLimit) :=
    eval_query_of_answer deployment (.recentSaves identity _)
      (columnFlaw?_eq_none (single_isWhole whole) (by simpa using small)) rfl
  refine (Task.eval_bind_ok asked _).trans ?_
  rw [read]
  rfl

theorem eval_loadContext {since : Timestamp} {saved : List (Post C)}
    (start : retentionStart service.now service.config.ranking.seenRetentionDays = .ok since)
    (small : Number.isWord service.config.ranking.recentSavesLimit = true)
    (read : (deployment.tables.recentSaves identity
      service.config.ranking.recentSavesLimit).mapM PostRow.post = .ok saved) :
    (service.loadContext (C := C) identity).eval deployment.answers =
      .ok (contextOf deployment.tables identity since saved) := by
  refine Task.eval_bind_ok (Task.eval_both_ok
    (Task.eval_attempt_ok (eval_loadInterest root whole)) <|
    Task.eval_both_ok (Task.eval_attempt_ok (eval_loadFollowing root whole)) <|
    Task.eval_both_ok (Task.eval_attempt_ok (eval_loadBlocked root whole)) <|
    Task.eval_both_ok (Task.eval_attempt_ok (eval_loadSeen root whole start)) <|
    Task.eval_both_ok (Task.eval_attempt_ok (eval_loadTopics root whole small read))
      (Task.eval_attempt_ok (eval_loadProfile root whole))) _

end

section

variable {query : FeedQuery R} {weights : Weights R} {interest : Embedding C}

omit [Component C R] in
theorem pageOf_nil (service : Service R) (query : FeedQuery R) (authors : List Author) :
    service.pageOf query authors ([] : List (Scored C R)) = .empty query.identity := by
  rw [pageOf, Page.slice_nil]
  rfl

theorem ids_isWhole (sound : deployment.IsSound) {found : List (Neighbour C R)}
    {tables : Tables R} {identity : Text} {size : Nat}
    (retrieved : service.retrieve tables identity deployment.index interest size = .ok found) :
    ∀ id ∈ found.map (·.id), id.isWhole = true := by
  intro id member
  obtain ⟨neighbour, inside, rfl⟩ := List.mem_map.1 member
  obtain ⟨point, there, same, -⟩ := mem_retrieve retrieved inside
  exact same ▸ sound.written point there

theorem authors_isWhole {tables : Tables R} (sound : tables.IsSound C)
    (found : List (Neighbour C R)) {posts : List (Post C)} {p : PostRow R → Bool}
    (read : (tables.posts.filter p).mapM PostRow.post = .ok posts) :
    ∀ post ∈ inFoundOrder found posts, post.author.isWhole = true := by
  intro post member
  obtain ⟨row, inside, made⟩ := mem_of_mapM read (mem_inFoundOrder member)
  exact sound.author_isWhole ⟨row, (List.mem_filter.1 inside).1, made⟩

/-- The end of a page: the ranking of the candidates decides how it ends. -/
theorem eval_computeFrom (sound : deployment.IsSound) (positive : 0 < query.pageSize)
    (factor : 0 < service.config.ranking.overFetchFactor) {since : Timestamp}
    {saved : List (Post C)}
    (known : service.readerOf deployment.tables query.identity interest =
      .ok (readerWith deployment.tables query.identity interest since saved))
    {selection : Selection C R}
    (selected : service.selectNear deployment.tables query.identity deployment.index interest
      query.pageSize = .ok selection) :
    ((service.computeFrom query (contextOf deployment.tables query.identity since saved) weights
      interest).eval deployment.answers).map Prod.fst =
      ((rank weights service.config.ranking.diversityThreshold selection.candidates).mapError
        fun cause => .fault (.broken cause)).map (service.pageOf query selection.authors) := by
  unfold selectNear at selected
  obtain ⟨found, retrieved, selected⟩ := ok_of_bind selected
  obtain ⟨posts, read, selected⟩ := ok_of_bind selected
  obtain ⟨reader, known', selected⟩ := ok_of_bind selected
  obtain ⟨candidates, made, selected⟩ := ok_of_bind selected
  cases selected
  rw [known] at known'
  cases known'
  have retrieved := ok_of_mapError retrieved
  have read := ok_of_mapError read
  have search := eval_findNeighbours sound.asked (Int.mul_pos (by omega) factor) retrieved
  -- Call by call; what is asked for has a form in bytes, so that no part of the page is lost.
  unfold computeFrom
  refine (Task.map_eval_bind_ok (Task.eval_attempt_ok search) _ _).trans ?_
  cases found with
  | nil =>
    cases made
    exact congrArg Except.ok (pageOf_nil service query _).symm
  | cons first rest =>
    have ids := ids_isWhole sound retrieved
    have authors := authors_isWhole sound.tables (first :: rest) read
    refine (Task.map_eval_bind_ok (Task.eval_attempt_ok (eval_fetchPosts ids read)) _ _).trans ?_
    refine (Task.map_eval_bind_ok
      (Task.eval_attempt_ok (eval_fetchAuthors deployment authors)) _ _).trans ?_
    refine (Task.map_eval_bind_ok (Task.eval_ofExcept_ok made) _ _).trans ?_
    dsimp only
    rw [Task.eval_bind, Task.eval_ofBreakdown]
    cases rank weights service.config.ranking.diversityThreshold candidates with
    | error cause => rfl
    | ok ranked => rfl

theorem eval_reader (ready : service.IsSound) (sound : deployment.IsSound)
    (whole : identity.isWhole = true) :
    ∃ (since : Timestamp) (saved : List (Post C)),
      retentionStart service.now service.config.ranking.seenRetentionDays = .ok since ∧
      (deployment.tables.recentSaves identity
        service.config.ranking.recentSavesLimit).mapM PostRow.post = .ok saved ∧
      (service.loadContext (C := C) identity).eval deployment.answers =
        .ok (contextOf deployment.tables identity since saved) := by
  obtain ⟨since, start⟩ := ready.window
  obtain ⟨saved, saves⟩ : ∃ saved : List (Post C), (deployment.tables.recentSaves identity
      service.config.ranking.recentSavesLimit).mapM PostRow.post = .ok saved :=
    Tables.posts_isOk sound.tables fun row member => Tables.mem_recentSaves member
  exact ⟨since, saved, start, saves, eval_loadContext ready.root whole start ready.history saves⟩

/-- Without weights to rank by there is no page: the stored ones cannot be read, or the overrides do
not fit them, if only after the loads. -/
theorem eval_computePage_unweighed (ready : service.IsSound) (sound : deployment.IsSound)
    (whole : query.identity.isWhole = true) {fault : Fault R}
    (stopped : service.weightsFor deployment.tables query = .error fault) :
    (service.computePage query).eval deployment.answers = .error (.fault fault) := by
  obtain ⟨since, saved, _, _, context⟩ := eval_reader ready sound whole
  have weighed :=
    eval_profileWeights service deployment.tables query.identity deployment.answers
  unfold computePage
  refine (Task.eval_bind_ok context _).trans ?_
  rw [weightsFor] at stopped
  -- It is the record that cannot be read, or the overrides do not fit what was read.
  cases own : service.weightsOf deployment.tables query.identity with
  | error cause =>
    rw [own] at stopped weighed
    cases stopped
    exact Task.eval_bind_error weighed _
  | ok base =>
    rw [own] at stopped weighed
    refine (Task.eval_bind_ok weighed _).trans (Task.eval_bind_error ?_ _)
    rw [Task.eval_ofRefusal]
    change (base.withOverrides query.overrides).mapError _ = _ at stopped
    cases refused : base.withOverrides query.overrides with
    | error cause =>
      rw [refused] at stopped
      cases stopped
      rfl
    | ok weights =>
      rw [refused] at stopped
      cases stopped

theorem eval_computePage (ready : service.IsSound) (sound : deployment.IsSound)
    (whole : query.identity.isWhole = true) (positive : 0 < query.pageSize)
    {own : Weights R} (given : service.weightsOf deployment.tables query.identity = .ok own)
    (accepted : own.withOverrides query.overrides = .ok weights) {selection : Selection C R}
    (selected : service.select query.identity deployment query.pageSize = .ok selection) :
    ((service.computePage query).eval deployment.answers).map Prod.fst =
      ((rank weights service.config.ranking.diversityThreshold selection.candidates).mapError
        fun cause => .fault (.broken cause)).map (service.pageOf query selection.authors) := by
  obtain ⟨since, saved, start, saves, context⟩ := eval_reader ready sound whole
  have weighed :=
    eval_profileWeights service deployment.tables query.identity deployment.answers
  rw [given] at weighed
  unfold computePage
  refine (Task.map_eval_bind_ok context _ _).trans ?_
  refine (Task.map_eval_bind_ok weighed _ _).trans ?_
  refine (Task.map_eval_bind_ok (Task.eval_ofRefusal_ok accepted) _ _).trans ?_
  -- Nothing is selected for a reader without a usable vector, and the page is empty.
  have empty : (Except.ok (FeedResponse.empty query.identity) : Except (Stop R) _) =
      ((rank weights service.config.ranking.diversityThreshold
        (Selection.nothing : Selection C R).candidates).mapError
          fun cause => .fault (.broken cause)).map
            (service.pageOf query (Selection.nothing : Selection C R).authors) :=
    congrArg Except.ok (pageOf_nil service query _).symm
  unfold select at selected
  dsimp only [contextOf, Option.join_some]
  cases stored : (deployment.tables.user? query.identity).bind UserRow.interestVector with
  | none =>
    rw [stored] at selected
    cases selected
    exact empty
  | some components =>
    rw [stored] at selected
    obtain ⟨interest, read, selected⟩ := ok_of_bind selected
    refine (Task.map_eval_bind_ok (Task.eval_ofExcept_ok read) _ _).trans ?_
    cases interest with
    | none =>
      cases selected
      exact empty
    | some interest =>
      have kept := Config.keeps_of_accepted ready.accepted .overFetchFactor (by decide)
      have factor : 0 < service.config.ranking.overFetchFactor :=
        Int.not_lt.1 (of_decide_eq_false kept)
      exact eval_computeFrom sound positive factor (readerOf_eq interest start saves) selected

end

end Service

end PersonalFeed
