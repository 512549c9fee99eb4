import PersonalFeed.Proofs.Entries.Loading

/-!
Requests over a cache of well-shaped values. Each loads what it has to know, asks the stores and
goes through to its end with an answer.
-/

set_option autoImplicit false

namespace PersonalFeed

open Scalar

variable {C R : Type} [Score R] [Component C R]

/-- Stores that answer whatever they are asked, and an index whose vectors consist of numbers. -/
structure Deployment.IsWorking (deployment : Deployment C R) : Prop extends deployment.IsSound where
  quiet : deployment.rules = []
  retrieved : deployment.fixedRetrieval = none
  defined : ∀ point ∈ deployment.index.points, Index.checkVector point.direction = .ok ()

namespace Service

open Deployment

variable {service : Service R} {deployment : Deployment C R} {root : Text} {kinds : List Artifact}

theorem profileWeights_settles {profile : Option (Profile R)}
    (usable : ∀ given, profile = some given → given.IsUsable) :
    deployment.Settles root kinds (service.profileWeights profile) kinds
      (· = service.weightsUnder profile) := by
  unfold profileWeights weightsUnder
  cases profile with
  | none => exact settles_pure rfl
  | some given =>
    dsimp only [Option.bind_some]
    split
    · rw [weights_of_absent ‹_›]
      exact settles_pure rfl
    · have told := (usable given rfl).weights.resolve_left ‹_›
      rcases told with ⟨weights, accepted⟩ | ⟨cause, refused⟩
      · rw [accepted]
        exact settles_pure rfl
      · rw [refused]
        exact settles_bind (settles_count _) fun _ _ => settles_pure rfl

section

variable (sound : deployment.IsWorking)

include sound

theorem findNeighbours_settles {query : Embedding C} (checked : Index.checkVector query = .ok ())
    (limit : Int) (ids posts : List Text) :
    deployment.Settles root kinds
      (findNeighbours query limit (.ids ids) posts : Task C R (List (Neighbour C R))) kinds
      fun found => ∀ neighbour ∈ found, deployment.index.Reports neighbour := by
  unfold findNeighbours
  split
  · exact settles_pure fun _ member => absurd member List.not_mem_nil
  · obtain ⟨hits, found, searched, read, -⟩ : ∃ (hits : List (Hit C R)) (found : _),
        deployment.index.search query limit ⟨ids, posts⟩ = .ok hits ∧
          hits.mapM Hit.neighbour = .ok found ∧ _ := Index.search_isOk checked
    refine settles_bind_exact (settles_ofExcept rfl rfl) ?_
    refine settles_bind_exact (settles_search sound.asked searched) ?_
    refine settles_bind_exact (settles_pure rfl) ?_
    exact settles_ofBreakdown read fun _ => Index.mem_search searched read

theorem fetchPosts_settles {ids : List Text} (whole : ∀ id ∈ ids, id.isWhole = true) :
    deployment.Settles root kinds (fetchPosts ids : Task C R (List (Post C))) kinds
      fun posts => ∀ post ∈ posts, deployment.tables.Gives post := by
  unfold fetchPosts
  split
  · exact settles_pure fun _ member => absurd member List.not_mem_nil
  · have flawless : (Query.content ids.eraseDups : Query R).flaw? = none := by
      refine columnFlaw?_eq_none (List.all_eq_true.2 fun id member => ?_) rfl
      exact whole id (List.mem_eraseDups.1 member)
    refine settles_bind_exact (settles_query rfl flawless rfl) ?_
    obtain ⟨posts, read⟩ : ∃ posts : List (Post C), (deployment.tables.posts.filter fun row =>
        ids.eraseDups.contains row.id).mapM PostRow.post = .ok posts :=
      Tables.posts_isOk sound.tables fun row member => (List.mem_filter.1 member).1
    refine settles_ofBreakdown read fun post member => ?_
    obtain ⟨row, inside, made⟩ := mem_of_mapM read member
    exact ⟨row, (List.mem_filter.1 inside).1, made⟩

omit sound in
theorem fetchAuthors_settles {ids : List Text} (whole : ∀ id ∈ ids, id.isWhole = true) :
    deployment.Settles root kinds (fetchAuthors ids : Task C R (List Author)) kinds
      fun _ => True := by
  cases ids with
  | nil => exact settles_pure trivial
  | cons id rest =>
    have flawless : (Query.authors (id :: rest).eraseDups : Query R).flaw? = none := by
      refine columnFlaw?_eq_none (List.all_eq_true.2 fun other member => ?_) rfl
      exact whole other (List.mem_eraseDups.1 member)
    exact settles_mono (settles_query rfl flawless rfl) fun _ _ => trivial

theorem fetchFound_settles {found : List (Neighbour C R)}
    (near : ∀ neighbour ∈ found, deployment.index.Reports neighbour) :
    deployment.Settles root kinds
      (fetchPosts (found.map (·.id)) : Task C R (List (Post C))) kinds
      fun posts => ∀ post ∈ posts, deployment.tables.Gives post := by
  refine fetchPosts_settles sound fun id member => ?_
  obtain ⟨neighbour, inside, rfl⟩ := List.mem_map.1 member
  obtain ⟨point, there, same, -⟩ := near neighbour inside
  exact same ▸ sound.written point there

theorem fetchAuthorsOf_settles {posts : List (Post C)}
    (given : ∀ post ∈ posts, deployment.tables.Gives post) :
    deployment.Settles root kinds
      (fetchAuthors (posts.map (·.author)) : Task C R (List Author)) kinds fun _ => True := by
  refine fetchAuthors_settles fun id member => ?_
  obtain ⟨post, inside, rfl⟩ := List.mem_map.1 member
  exact sound.tables.author_isWhole (given post inside)

theorem fetchVectors_settles (ids : List Text) :
    deployment.Settles root kinds
      (fetchVectors ids : Task C R (List (Text × Embedding C))) kinds
      fun vectors => ∀ pair ∈ vectors, Index.checkVector pair.2 = .ok () := by
  unfold fetchVectors
  split
  · exact settles_pure fun _ member => absurd member List.not_mem_nil
  · refine settles_bind_exact (settles_retrieve sound.retrieved _) ?_
    refine settles_bind_exact (settles_pure rfl) ?_
    -- An indexed point makes a hit that is read without loss, so no hit is refused.
    have each : ∀ hit ∈ (deployment.index.retrieve ids.eraseDups : List (Hit C R)),
        ∃ neighbour, Hit.neighbour hit = .ok neighbour ∧
          ∀ v, neighbour.vector = some v → Index.checkVector v = .ok () := by
      intro hit member
      obtain ⟨point, inside, rfl⟩ := List.mem_map.1 member
      refine ⟨_, Hit.neighbour_toTensor .., fun v same => ?_⟩
      cases same
      exact sound.defined point (List.mem_filter.1 inside).1
    obtain ⟨neighbours, read⟩ := mapM_isOk fun hit member => (each hit member).imp fun _ => And.left
    refine settles_bind_exact (settles_ofBreakdown read rfl) ?_
    refine settles_pure fun pair member => ?_
    obtain ⟨neighbour, inside, paired⟩ := List.mem_filterMap.1 member
    obtain ⟨v, vector, rfl⟩ := Option.map_eq_some_iff.1 paired
    obtain ⟨hit, reported, made⟩ := mem_of_mapM read inside
    obtain ⟨other, made', defined⟩ := each hit reported
    cases made.symm.trans made'
    exact defined v vector

end

section

def RanksAll (service : Service R) (weights : Weights R) : Prop :=
  ∀ candidates : List (Candidate C R),
    (∀ c ∈ candidates, ∃ reader found post v,
      candidateOf service.config service.now reader found post (some v) = .ok c) →
    ∃ ranked, rank weights service.config.ranking.diversityThreshold candidates = .ok ranked

theorem computeFrom_settles [SignRules R] (ready : service.IsSound) (sound : deployment.IsWorking)
    {query : FeedQuery R} {context : FeedContext R} (usable : context.IsUsable C)
    {weights : Weights R} (ranks : service.RanksAll (C := C) weights) {interest : Embedding C}
    (checked : Index.checkVector interest = .ok ()) :
    deployment.Settles root kinds (service.computeFrom query context weights interest) kinds
      fun _ => True := by
  obtain ⟨ids, blocked⟩ := usable.blocked
  unfold computeFrom
  dsimp only
  rw [blocked]
  refine settles_bind (settles_attempt _ (findNeighbours_settles sound checked _ ids [])) ?_
  rintro _ ⟨found, rfl, near⟩
  dsimp only
  split
  · exact settles_pure trivial
  · refine settles_bind (settles_attempt _ (fetchFound_settles sound near)) ?_
    rintro _ ⟨posts, rfl, given⟩
    dsimp only
    refine settles_bind (settles_attempt _ (fetchAuthorsOf_settles sound fun post member =>
      given post (mem_inFoundOrder member))) ?_
    rintro _ ⟨authors, rfl, -⟩
    -- A part of the context that is missing stands for a neutral one, so the reader is always
    -- there.
    let reader : ReaderContext C R := ⟨interest, context.seen.getD [],
      context.topics.getD .empty, (context.profile?.map (·.muted)).getD []⟩
    have keywords : ∀ keyword ∈ reader.muted, keyword.IsKeyword := by
      cases known : context.profile? with
      | none => simp [reader, known]
      | some profile => simpa [reader, known] using (usable.profile profile known).muted
    let view := viewpointOf query.identity context (some authors)
    have vectors (post : Post C) (seen : post ∈ view.visible (inFoundOrder found posts)) :=
      vectorOf_reports near (List.mem_filter.1 seen).1
    obtain ⟨candidates, made, -⟩ := candidatesOf_isOk ready.accepted service.now reader usable.seen
      keywords vectors
    refine settles_bind_exact (settles_ofExcept made rfl) ?_
    obtain ⟨ranked, ordered⟩ := ranks candidates fun c member => by
      obtain ⟨post, v, -, ended⟩ := mem_candidatesOf vectors made member
      exact ⟨reader, found, post, v, ended⟩
    refine settles_bind_exact (settles_ofBreakdown ordered rfl) ?_
    exact settles_bind (settles_count _) fun _ _ => settles_pure trivial

end

/-- The profile that is stored of a reader can be worked with if its weights can be read. -/
theorem isUsable_of_legible {tables : Tables R} (sound : tables.IsSound C) {identity : Text}
    (legible : ∃ own, service.weightsOf tables identity = .ok own) (profile : Profile R)
    (known : (tables.user? identity).map UserRow.profile = some profile) : profile.IsUsable := by
  constructor
  · obtain ⟨own, given⟩ := legible
    rw [weightsOf, known] at given
    dsimp only at given
    split at given
    · exact .inl ‹_›
    · split at given
      · exact .inr (.inl ⟨_, ‹_›⟩)
      · exact .inr (.inr ⟨_, ‹_›⟩)
      · cases given
  · have keywords := sound.keywords identity
    rw [known] at keywords
    exact keywords

section

variable [SignRules R] (ready : service.IsSound) (sound : deployment.IsWorking)
variable (reads : ∀ value : Json R, value.HasShape C .interestVector → value.ReadsInterest C)
variable {query : FeedQuery R} (whole : query.identity.isWhole = true)
variable (shaped : ∀ key : CacheKey, key.Feeds query.identity →
  deployment.cache.IsShapedAt C service.root key)
variable (legible : ∃ own, service.weightsOf deployment.tables query.identity = .ok own)
variable {weights : Weights R} (ranks : service.RanksAll (C := C) weights)
variable (accepted : (service.weightsUnder (deployment.profileFor service.root
  query.identity)).withOverrides query.overrides = .ok weights)

include ready sound reads whole shaped legible ranks accepted

theorem computePage_settles :
    deployment.Settles service.root [.interestVector, .follows, .blocks, .seen, .topics, .profile]
      (service.computePage (C := C) query) [] fun _ => True := by
  have stored : ∀ components, (deployment.tables.user? query.identity).bind
      UserRow.interestVector = some components → (Json.array components).ReadsInterest C := by
    intro components kept
    obtain ⟨user, found, given⟩ := Option.bind_eq_some_iff.1 kept
    exact checkVector_of_interest (sound.tables.interests user (List.mem_of_find?_eq_some found)
      components (Option.filter_eq_some_iff.1 given).1)
  refine settles_bind (loadContext_settles ready.root whole ready sound.toIsSound shaped
    (isUsable_of_legible sound.tables legible) reads stored) ?_
  rintro context ⟨usable, same⟩
  refine settles_bind_exact (profileWeights_settles usable.profile) ?_
  rw [same]
  refine settles_bind_exact (settles_ofRefusal accepted rfl) ?_
  -- Someone without an interest, or with one of another width than vectors, gets an empty page.
  cases present : context.interest.join with
  | none => exact settles_pure trivial
  | some value =>
    obtain ⟨interest, read, defined⟩ := usable.interest value present
    refine settles_bind_exact (settles_ofExcept read rfl) ?_
    cases interest with
    | none => exact settles_bind (settles_count _) fun _ _ => settles_pure trivial
    | some interest => exact computeFrom_settles ready sound usable ranks (defined interest rfl)

theorem rankFeed_settles [FaithfulText R] {request : FeedRequest R}
    (checked : checkFeed service.config request = .ok query)
    (once : (query.overrides.map Prod.fst).Nodup) :
    deployment.Settles service.root
      [.feedPage, .interestVector, .follows, .blocks, .seen, .topics, .profile]
      (service.rankFeed (C := C) request) [] fun _ => True := by
  obtain ⟨_, fits⟩ := accepted_of_checkFeed checked
  obtain ⟨fingerprint, made, plain⟩ := Weights.fingerprint_isOk once fits
  have written := pageKey_written ready.root plain whole (isWhole_cursor checked)
  refine settles_bind_exact (settles_ofRefusal checked rfl) ?_
  refine settles_bind (settles_count _) fun _ _ => settles_bind_exact (settles_ofExcept made rfl) ?_
  refine cached_bind_settles written List.mem_cons_self (shaped _ rfl) (fun value _ shape => ?_)
    fun _ => ?_
  · cases shape with
    | feedPage read =>
      exact settles_fewer (settles_valid read trivial) (List.nil_subset _)
  · -- The page is stored last, when nothing is looked up any more.
    refine settles_forget (List.subset_cons_self _ _) (settles_bind (computePage_settles ready
      sound reads whole shaped legible ranks accepted) ?_)
    rintro ⟨response, complete⟩ -
    cases complete with
    | false => exact settles_pure trivial
    | true =>
      exact settles_bind (keep_settles written List.not_mem_nil _) fun _ _ => settles_pure trivial

end

section

variable (sound : deployment.IsWorking)

include sound

theorem embedding_of_gives {post : Post C} (given : deployment.tables.Gives post) {t : Tensor C}
    (stored : post.embedding = some t) :
    ∃ v : Embedding C, t = v.toTensor ∧ Index.checkVector v = .ok () := by
  obtain ⟨row, inside, made⟩ := given
  obtain ⟨embedding, read, rfl⟩ := ok_of_map made
  cases stored
  unfold PostRow.storedEmbedding at read
  split at read
  · cases read
  · rename_i entries present
    split at read
    · rename_i wide
      have components := sound.tables.embeddings row inside entries present
      obtain ⟨numbers, each⟩ := forall₂_of_ok (f := Json.toReal) fun entry member =>
        (components entry member).imp fun x both => both.1
      rw [Json.toTensor_numbers each] at read
      cases read
      -- The width was checked on the stored entries, and to narrow them keeps their number.
      have size : (numbers.map (Component.narrow : R → C)).toArray.size = vectorWidth := by
        simpa using each.length_eq.symm.trans wide
      refine ⟨⟨_, size⟩, Tensor.map_ofList _ _, ?_⟩
      obtain ⟨interest, made, defined⟩ := checkVector_of_interest components
      rw [readInterest_numbers each, Embedding.ofArray?, dif_pos size] at made
      exact defined _ (Except.ok.inj made).symm
    · cases read

/-- What a search for similar posts starts from: the vector of the index or, where the index has
none, the stored one. -/
theorem vector_of_source {post : Post C} (given : deployment.tables.Gives post)
    {indexed : List (Text × Embedding C)}
    (defined : ∀ pair ∈ indexed, Index.checkVector pair.2 = .ok ()) {id : Text} {t : Tensor C}
    (source : (((vectorFor indexed id).map Embedding.toTensor).orElse fun _ => post.embedding) =
      some t) : ∃ v : Embedding C, t = v.toTensor ∧ Index.checkVector v = .ok () := by
  cases near : vectorFor indexed id with
  | none =>
    rw [near] at source
    exact embedding_of_gives sound given source
  | some v =>
    rw [near] at source
    cases source
    obtain ⟨pair, last, rfl⟩ := Option.map_eq_some_iff.1 near
    have member := List.mem_reverse.1 (List.mem_of_find?_eq_some last)
    exact ⟨_, rfl, defined pair member⟩

omit sound [Component C R] in
theorem similarScored_isOk [SignRules R] (accepted : service.config.IsAccepted)
    (found : List (Neighbour C R)) (post : Post C) :
    ∃ scored, service.similarScored found post = .ok scored := by
  have rate := Config.keeps_of_accepted accepted .decayRate (by decide)
  unfold similarScored recency?
  dsimp only
  rw [rateOf_real (by simpa [Config.breaks] using rate)]
  exact ⟨_, rfl⟩

variable [SignRules R] (ready : service.IsSound)

include ready

theorem computeNeighbours_settles (query : SimilarQuery) (following : Option IdSet)
    (ids : List Text) {direction : Embedding C}
    (checked : Index.checkVector direction = .ok ()) :
    deployment.Settles root kinds
      (service.computeNeighbours (R := R) query following (.ids ids) direction.toTensor) kinds
      fun _ => True := by
  -- The source was a tensor so far, and it is a vector again only inside the attempt to search.
  have search : deployment.Settles root kinds (do
        let direction ← Task.ofExcept (Embedding.ofTensor direction.toTensor)
        findNeighbours direction query.limit (.ids ids) [query.post] :
          Task C R (List (Neighbour C R))) kinds
      fun found => ∀ neighbour ∈ found, deployment.index.Reports neighbour := by
    refine settles_bind_exact (settles_ofExcept (Embedding.ofTensor_toTensor direction) rfl) ?_
    exact findNeighbours_settles sound checked _ ids _
  unfold computeNeighbours
  refine settles_bind (settles_attempt _ search) ?_
  rintro _ ⟨found, rfl, near⟩
  dsimp only
  split
  · exact settles_pure trivial
  · refine settles_bind (settles_attempt _ (fetchFound_settles sound near)) ?_
    rintro _ ⟨posts, rfl, given⟩
    dsimp only
    refine settles_bind (settles_attempt _ (fetchAuthorsOf_settles sound fun post member =>
      given post (mem_inFoundOrder member))) ?_
    rintro _ ⟨authors, rfl, -⟩
    dsimp only
    let view := requesterView query.requester following (.ids ids) authors
    let visible := view.visible (inFoundOrder found posts)
    obtain ⟨scored, made⟩ := mapM_isOk fun post (_ : post ∈ visible) =>
      similarScored_isOk ready.accepted found post
    refine settles_bind_exact (settles_ofExcept made rfl) ?_
    exact settles_pure trivial

variable {request : SimilarRequest R} {query : SimilarQuery}
variable (checked : checkSimilar service.config request = .ok query)
variable (whole : query.requester.isWhole = true)
variable (shaped : ∀ key : CacheKey, key.Relates query.requester →
  deployment.cache.IsShapedAt C service.root key)

include checked whole shaped

theorem computeSimilar_settles :
    deployment.Settles service.root [.follows, .blocks] (service.computeSimilar (C := C) query) []
      fun _ => True := by
  obtain ⟨-, n, named⟩ := checkSimilar_ok checked
  -- The post was asked for by a written id, which has a byte form.
  have single : ∀ id ∈ [query.post], id.isWhole = true := by
    intro id member
    rw [List.mem_singleton.1 member, named]
    exact PostId.isWhole_write n
  refine settles_bind (settles_both (settles_attempt _ (fetchPosts_settles sound single)) <|
    settles_both (settles_attempt _ (fetchVectors_settles sound _)) <|
    settles_both (settles_attempt _ (loadFollowing_settles ready.root whole (by decide)
      (shaped _ rfl)))
      (settles_attempt _ (loadBlocked_settles ready.root whole (by decide) (shaped _ rfl)))) ?_
  rintro ⟨source, vectors, following, blocked⟩ ⟨⟨posts, rfl, given⟩, ⟨indexed, rfl, defined⟩, -,
    _, rfl, ids, rfl⟩
  dsimp only
  cases found : posts.find? (·.id = query.post) with
  | none => exact settles_pure trivial
  | some post =>
    have stored := given post (List.mem_of_find?_eq_some found)
    dsimp only
    have authored : ∀ id ∈ [post.author], id.isWhole = true := by
      intro id member
      exact List.mem_singleton.1 member ▸ sound.tables.author_isWhole stored
    refine settles_bind (settles_attempt _ (fetchAuthors_settles authored)) ?_
    rintro _ ⟨authors, rfl, -⟩
    dsimp only
    split
    · split
      · exact settles_pure trivial
      · obtain ⟨v, rfl, checked⟩ := vector_of_source sound stored defined ‹_›
        exact computeNeighbours_settles sound ready query following ids checked
    · exact settles_pure trivial

theorem similarPosts_settles :
    deployment.Settles service.root [.similar, .follows, .blocks]
      (service.similarPosts (C := C) request) [] fun _ => True := by
  obtain ⟨-, n, named⟩ := checkSimilar_ok checked
  have written := written_of_whole (.similar query.post query.requester query.limit) ready.root
    (by simp [CacheKey.parts, named, PostId.isWhole_write, whole])
  refine settles_bind_exact (settles_ofRefusal checked rfl) ?_
  refine cached_bind_settles written List.mem_cons_self (shaped _ rfl) (fun value _ shape => ?_)
    fun _ => ?_
  · cases shape with
    | similar read => exact settles_fewer (settles_valid read trivial) (List.nil_subset _)
  · refine settles_forget (List.subset_cons_self _ _) (settles_bind (computeSimilar_settles sound
      ready checked whole shaped) ?_)
    rintro answer -
    cases answer with
    | none => exact settles_pure trivial
    | some response =>
      exact settles_bind (keep_settles written List.not_mem_nil _) fun _ _ => settles_pure trivial

end

end Service

end PersonalFeed
