import PersonalFeed.Proofs.Batches
import PersonalFeed.Proofs.Cache.Decoding
import PersonalFeed.Proofs.Cache.Fingerprints
import PersonalFeed.Proofs.Cache.Lookups
import PersonalFeed.Proofs.Paging
import PersonalFeed.Proofs.Program.Interleaving
import PersonalFeed.Proofs.Ranking.Rounds
import PersonalFeed.Proofs.Requests
import PersonalFeed.Proofs.Sorting
import PersonalFeed.Service.Similar

/-!
What answers are made of. Whoever talks to the stores by some contract knows something of the edges,
authors and posts that are loaded, and every item of an answer shows a known post from a viewpoint of
known edges. Lost blocks or authors leave a viewpoint without edges, and lost follows leave none.
-/

set_option autoImplicit false

namespace PersonalFeed

variable {C R : Type}

/-- What is known of the parts that decide who is shown what. -/
structure Knowledge (C : Type) where
  following : IdSet → Prop
  blocked : IdSet → Prop
  author : Author → Prop
  post : Post C → Prop

def Viewpoint.IsKnown (known : Knowledge C) (view : Viewpoint) : Prop :=
  ∀ edges, view.edges = some edges →
    (∃ set, known.blocked set ∧ edges.blocked = set.toList) ∧
    (∀ id ∈ edges.following, ∃ set, known.following set ∧ id ∈ set.toList) ∧
    ∀ author ∈ edges.authors, known.author author

def Knowledge.Shows [Numeral R] (known : Knowledge C) (reader : Text) (item : FeedItem R) : Prop :=
  ∃ (view : Viewpoint) (scored : Scored C R) (authors : List Author) (sign : Option MediaSigner),
    view.requester = reader ∧ view.IsKnown known ∧ view.canSee scored.post.author = true ∧
      known.post scored.post ∧ item = scored.item authors sign

structure FeedContext.IsKnown (known : Knowledge C) (context : FeedContext R) : Prop where
  following : ∀ set, context.following = some set → known.following set
  blocked : ∀ set, context.blocked = some set → known.blocked set

def CacheKey.IsAside : CacheKey → Prop
  | interestVector _ | seen _ | topics _ | profile _ => True
  | follows _ | blocks _ | page _ _ _ _ | similar _ _ _ => False

/-- By a contract something is known of the parts that are loaded for a person. -/
structure Contract.Informs [Numeral R] [Component C R] (contract : Contract C R)
    (service : Service R) (identity : Text) (known : Knowledge C) : Prop where
  serves : contract.Serves
  takes : ∀ key : CacheKey, key.IsAside → ∀ value, contract.Takes service.root key value
  following : (service.loadFollowing identity : Task C R IdSet).Yields contract known.following
  blocked : (service.loadBlocked identity : Task C R IdSet).Yields contract known.blocked
  posts : ∀ ids, (Service.fetchPosts ids : Task C R (List (Post C))).Yields contract
    fun posts => ∀ post ∈ posts, known.post post
  authors : ∀ ids, (Service.fetchAuthors ids : Task C R (List Author)).Yields contract
    fun authors => ∀ author ∈ authors, known.author author

theorem post_of_candidateOf [Score R] [Component C R] {config : Config R} {now : Timestamp}
    {reader : ReaderContext C R} {found : List (Neighbour C R)} {post : Post C}
    {vector : Option (Embedding C)} {c : Candidate C R}
    (ended : candidateOf config now reader found post vector = .ok c) : c.post = post := by
  obtain ⟨days, _, ended⟩ := ok_of_bind ended
  obtain ⟨temporal, _, ended⟩ := ok_of_bind ended
  obtain ⟨privacy, _, ended⟩ := ok_of_bind ended
  cases ended
  rfl

theorem seen_of_candidateOf [Score R] [Component C R] {config : Config R} {now : Timestamp}
    {reader : ReaderContext C R} {found : List (Neighbour C R)} {post : Post C}
    {vector : Option (Embedding C)} {c : Candidate C R}
    (ended : candidateOf config now reader found post vector = .ok c) :
    ∃ days, daysSinceSeen config now reader.seen post.id = .ok days ∧
      c.seen = seenMultiplier days := by
  obtain ⟨days, counted, ended⟩ := ok_of_bind ended
  obtain ⟨temporal, _, ended⟩ := ok_of_bind ended
  obtain ⟨privacy, _, ended⟩ := ok_of_bind ended
  cases ended
  exact ⟨days, ok_of_mapError counted, rfl⟩

theorem candidateOf_of_mem [Score R] [Component C R] {config : Config R} {now : Timestamp}
    {reader : ReaderContext C R} {found : List (Neighbour C R)} {posts : List (Post C)}
    {candidates : List (Candidate C R)}
    (ended : candidatesOf config now reader found posts = .ok candidates) {c : Candidate C R}
    (member : c ∈ candidates) :
    ∃ post ∈ posts, ∃ vector, candidateOf config now reader found post vector = .ok c := by
  rw [candidatesOf_eq] at ended
  obtain ⟨vectors, _, ended⟩ := ok_of_bind ended
  obtain ⟨⟨post, vector⟩, inside, made⟩ := mem_of_mapM ended member
  exact ⟨post, (List.of_mem_zip inside).1, vector, made⟩

/-- How a page comes to an item: by a post that its reader may see, the signals of it, and a place in
the ranking. -/
def Service.Lists [Score R] [Component C R] (service : Service R) (reader : Text)
    (context : FeedContext R) (authors : Option (List Author)) (stored : Post C → Prop)
    (item : FeedItem R) : Prop :=
  ∃ (view : ReaderContext C R) (found : List (Neighbour C R)) (post : Post C)
    (vector : Option (Embedding C)) (c : Candidate C R) (diversity final : R),
    view.seen = context.seen.getD [] ∧ stored post ∧
      (viewpointOf reader context authors).canSee post.author = true ∧
      candidateOf service.config service.now view found post vector = .ok c ∧
      item = (c.scored diversity final).item (authors.getD []) service.sign

namespace Service

variable {contract : Contract C R}

section

variable [Numeral R] {service : Service R} {identity : Text} (serves : contract.Serves)

include serves

theorem loadInterest_yields
    (takes : ∀ value, contract.Takes service.root (.interestVector identity) value) :
    (service.loadInterest identity : Task C R _).Yields contract fun _ => True := by
  refine Task.yields_bind (cached_yields serves _)
    fun found _ => ?_
  cases found with
  | some value => exact Task.yields_pure trivial
  | none =>
    refine Task.yields_bind (Task.yields_query (P := fun _ => True) (serves.query _ rfl)
      fun _ _ => trivial) fun stored _ => ?_
    cases stored with
    | none => exact Task.yields_pure trivial
    | some components =>
      exact Task.yields_bind (keep_yields (takes _)) fun _ _ => Task.yields_pure trivial

theorem loadSeen_yields (takes : ∀ value, contract.Takes service.root (.seen identity) value) :
    (service.loadSeen identity : Task C R SeenMap).Yields contract fun _ => True := by
  refine Task.yields_bind (cached_yields serves _)
    fun found _ => ?_
  cases found with
  | some value => exact Task.yields_ofBreakdown fun _ _ => trivial
  | none =>
    refine Task.yields_bind (Task.yields_ofBreakdown (P := fun _ => True) fun _ _ => trivial)
      fun since _ => ?_
    refine Task.yields_bind (Task.yields_query (P := fun _ => True) (serves.query _ rfl)
      fun _ _ => trivial) fun marks _ => ?_
    exact Task.yields_bind (keep_yields (takes _)) fun _ _ => Task.yields_pure trivial

theorem loadProfile_yields
    (takes : ∀ value, contract.Takes service.root (.profile identity) value) :
    (service.loadProfile identity : Task C R _).Yields contract fun _ => True := by
  refine Task.yields_bind (cached_yields serves _)
    fun found _ => ?_
  cases found with
  | some value => exact Task.yields_ofBreakdown fun _ _ => trivial
  | none =>
    refine Task.yields_bind (Task.yields_query (P := fun _ => True) (serves.query _ rfl)
      fun _ _ => trivial) fun profile _ => ?_
    exact Task.yields_bind (keep_yields (takes _)) fun _ _ => Task.yields_pure trivial

theorem loadTopics_yields [Component C R]
    (takes : ∀ value, contract.Takes service.root (.topics identity) value) :
    (service.loadTopics (C := C) identity).Yields contract fun _ => True := by
  refine loadIds_yields serves (fun _ _ _ _ => trivial) ?_
  refine Task.yields_bind (Task.yields_query (P := fun _ => True) (serves.query _ rfl)
    fun _ _ => trivial) fun rows _ => ?_
  refine Task.yields_bind (Task.yields_ofBreakdown (P := fun _ => True) fun _ _ => trivial)
    fun posts _ => ?_
  exact Task.yields_pure ⟨takes _, trivial⟩

omit [Numeral R] in
theorem findNeighbours_yields {query : Embedding C} {limit : Int} {excluded : IdSet}
    {posts : List Text} :
    (findNeighbours query limit excluded posts : Task C R (List (Neighbour C R))).Yields
      contract fun _ => True := by
  unfold findNeighbours
  split
  · exact Task.yields_pure trivial
  · refine Task.yields_bind (Task.yields_ofExcept (P := fun _ => True) fun _ _ => trivial)
      fun exclusion _ => ?_
    refine Task.yields_bind (Task.yields_ask (P := fun _ => True) (serves.search _ _ _)
      fun _ _ => trivial) fun outcome _ => ?_
    refine Task.yields_bind (Task.yields_answer (P := fun _ => True) fun _ _ => trivial)
      fun hits _ => ?_
    exact Task.yields_ofBreakdown fun _ _ => trivial

omit [Numeral R] in
theorem fetchVectors_yields {ids : List Text} :
    (fetchVectors ids : Task C R (List (Text × Embedding C))).Yields contract fun _ => True := by
  unfold fetchVectors
  split
  · exact Task.yields_pure trivial
  · refine Task.yields_bind (Task.yields_ask (P := fun _ => True) (serves.retrieve _)
      fun _ _ => trivial) fun outcome _ => ?_
    refine Task.yields_bind (Task.yields_answer (P := fun _ => True) fun _ _ => trivial)
      fun hits _ => ?_
    refine Task.yields_bind (Task.yields_ofBreakdown (P := fun _ => True) fun _ _ => trivial)
      fun neighbours _ => ?_
    exact Task.yields_pure trivial

end

theorem mem_inFoundOrder {found : List (Neighbour C R)} {posts : List (Post C)} {post : Post C}
    (member : post ∈ inFoundOrder found posts) : post ∈ posts := by
  obtain ⟨neighbour, _, first⟩ := List.mem_filterMap.1 member
  exact List.mem_of_find?_eq_some first

theorem requester_viewpointOf (identity : Text) (context : FeedContext R)
    (authors : Option (List Author)) :
    (viewpointOf identity context authors).requester = identity := by
  unfold viewpointOf
  split <;> rfl

theorem following_isKnown {known : IdSet → Prop} {following : Option IdSet}
    (followed : ∀ set, following = some set → known set) {id : Text}
    (member : id ∈ (following.getD .empty).toList) : ∃ set, known set ∧ id ∈ set.toList := by
  cases following with
  | none => cases member
  | some set => exact ⟨set, followed set rfl, member⟩

theorem viewpointOf_isKnown {known : Knowledge C} {identity : Text} {context : FeedContext R}
    {authors : Option (List Author)} (loaded : context.IsKnown known)
    (listed : ∀ list, authors = some list → ∀ author ∈ list, known.author author) :
    (viewpointOf identity context authors).IsKnown known := by
  intro edges present
  unfold viewpointOf at present
  cases blocks : context.blocked with
  | none =>
    rw [blocks] at present
    cases present
  | some blocked =>
    rw [blocks] at present
    cases authors with
    | none => cases present
    | some list =>
      cases present
      exact ⟨⟨blocked, loaded.blocked blocked blocks, rfl⟩,
        fun id member => following_isKnown loaded.following member, listed list rfl⟩

theorem requesterView_isKnown {known : Knowledge C} {requester : Text}
    {following : Option IdSet} {blocked : IdSet} {authors : List Author}
    (followed : ∀ set, following = some set → known.following set)
    (blocks : known.blocked blocked) (listed : ∀ author ∈ authors, known.author author) :
    (requesterView requester following blocked authors).IsKnown known := by
  intro edges present
  cases present
  exact ⟨⟨blocked, blocks, rfl⟩, fun id member => following_isKnown followed member, listed⟩

theorem proper_of_checkFeed [Score R] [PlainText R] {config : Config R} {request : FeedRequest R}
    {query : FeedQuery R} {fingerprint : Text} (checked : checkFeed config request = .ok query)
    (made : Weights.fingerprint query.overrides = .ok fingerprint) :
    (CacheKey.page query.identity fingerprint query.pageSize query.cursor).IsProper := by
  obtain ⟨weights, accepted⟩ := accepted_of_checkFeed checked
  refine ⟨Weights.fingerprint_lacks accepted made, fun post named => ?_⟩
  obtain ⟨n, rfl⟩ := PostId.checkCursor_ok (cursor_of_checkFeed checked) post named
  have length := PostId.length_write n
  refine ⟨PostId.write_lacks n, ?_, fun same => ?_⟩
  · simp only [Text.isEmpty, Text.length] at length ⊢
    exact List.isEmpty_eq_false_iff.2 fun empty => by simp [empty] at length
  · rw [same] at length
    cases length

theorem checkSimilar_ok {config : Config R} {request : SimilarRequest R} {query : SimilarQuery}
    (checked : checkSimilar config request = .ok query) :
    query.requester = request.requester ∧ ∃ n, query.post = PostId.write n := by
  obtain ⟨post, read, checked⟩ := ok_of_bind checked
  split at checked
  · cases checked
  · obtain ⟨limit, _, checked⟩ := ok_of_bind checked
    cases checked
    exact ⟨rfl, PostId.check_ok read⟩

theorem profileWeights_yields [Score R] {service : Service R} (serves : contract.Serves)
    {profile : Option (Profile R)} :
    (service.profileWeights profile : Task C R (Weights R)).Yields contract fun _ => True := by
  unfold profileWeights
  split
  · exact Task.yields_pure trivial
  · split
    · exact Task.yields_pure trivial
    · split
      · exact Task.yields_pure trivial
      · exact Task.yields_bind (count_yields serves _) fun _ _ => Task.yields_pure trivial
      · exact Task.yields_fail _ _

theorem checked_yields {α : Type} {checked : Schema.Checked α} {P : α → Prop}
    (holds : ∀ value, checked = .valid value → P value) :
    (Task.ofExcept (checked.toExcept.mapError Fault.schema) : Task C R α).Yields contract P := by
  cases checked with
  | valid value => exact Task.yields_pure (holds value rfl)
  | invalid violations => exact Task.yields_fail _ P

theorem emptyPage_yields {P : FeedItem R → Prop} {identity : Text} {complete : Bool} :
    (pure (FeedResponse.empty identity, complete) : Task C R (FeedResponse R × Bool)).Yields contract
      fun page => ∀ item ∈ page.1.items, P item :=
  Task.yields_pure fun _ member => absurd member List.not_mem_nil

theorem noAnswer_yields {P : FeedItem R → Prop} :
    (pure none : Task C R (Option (SimilarResponse R))).Yields contract
      fun answer => ∀ response, answer = some response → ∀ item ∈ response.items, P item :=
  Task.yields_pure fun response found => by cases found

theorem post_of_similarScored [Score R] {service : Service R} {found : List (Neighbour C R)}
    {post : Post C} {scored : Scored C R} (ended : service.similarScored found post = .ok scored) :
    scored.post = post := by
  obtain ⟨temporal, _, ended⟩ := ok_of_bind ended
  cases ended
  rfl

section

variable [Score R] [Component C R] {service : Service R} {identity : Text} {known : Knowledge C}
  (informs : contract.Informs service identity known)

include informs

/-- However the parts of the context take turns, each is known if it is not lost. -/
theorem gathers_yields {context : Task C R (FeedContext R)}
    (gathers : service.Gathers identity context) :
    context.Yields contract fun context => context.IsKnown known := by
  obtain ⟨six, five, four, three, two, turns, turns', turns'', turns''', turns'''', rfl⟩ := gathers
  have serves := informs.serves
  have attempt {part : Part} {α : Type} {task : Task C R α} {P : α → Prop}
      (yields : task.Yields contract P) : (Task.attempt part task).Yields contract
        fun result => ∀ value, result = some value → P value :=
    Task.yields_attempt serves.count yields
  refine Task.yields_bind
    (Task.yields_beside turns
      (attempt (loadInterest_yields serves (informs.takes _ trivial))) <|
      Task.yields_beside turns' (attempt informs.following) <|
      Task.yields_beside turns'' (attempt informs.blocked) <|
      Task.yields_beside turns'''
        (attempt (loadSeen_yields serves (informs.takes _ trivial))) <|
      Task.yields_beside turns''''
        (attempt (loadTopics_yields serves (informs.takes _ trivial)))
        (attempt (loadProfile_yields serves (informs.takes _ trivial)))) ?_
  rintro ⟨interest, following, blocked, seen, topics, profile⟩ ⟨_, followed, blocks, _⟩
  exact Task.yields_pure ⟨followed, blocks⟩

omit informs in
/-- Every item of a page comes of a stored post. What follows the filter only orders the candidates
and cuts a page. -/
theorem computeFrom_lists (serves : contract.Serves) {stored : Post C → Prop}
    (posts : ∀ ids, (fetchPosts ids : Task C R (List (Post C))).Yields contract
      fun posts => ∀ post ∈ posts, stored post)
    {listed : List Author → Prop}
    (authors : ∀ ids, (fetchAuthors ids : Task C R (List Author)).Yields contract listed)
    {query : FeedQuery R} {context : FeedContext R} {weights : Weights R}
    {interest : Embedding C} :
    (service.computeFrom query context weights interest).Yields contract
      fun page => ∀ item ∈ page.1.items, ∃ authors : Option (List Author),
        (∀ list, authors = some list → listed list) ∧
          service.Lists (C := C) query.identity context authors stored item := by
  unfold computeFrom
  refine Task.yields_bind (Task.yields_attempt serves.count (findNeighbours_yields serves))
    fun found _ => ?_
  cases found with
  | none => exact emptyPage_yields
  | some found =>
    dsimp only
    split
    · exact emptyPage_yields
    · refine Task.yields_bind (Task.yields_attempt serves.count (posts _)) fun posts stored => ?_
      cases posts with
      | none => exact emptyPage_yields
      | some posts =>
        refine Task.yields_bind (Task.yields_attempt serves.count (authors _))
          fun authors listed => ?_
        refine Task.yields_bind (Task.yields_ofExcept fun candidates made => made)
          fun candidates made => ?_
        refine Task.yields_bind (Task.yields_ofBreakdown fun ranked placed => placed)
          fun ranked placed => ?_
        -- From here each item is followed back: from the page to the ranked ones, from these to a
        -- candidate, and from the candidate to the visible post that it was made of.
        refine Task.yields_bind (count_yields serves _) fun _ _ =>
          Task.yields_pure fun item member => ⟨authors, listed, ?_⟩
        obtain ⟨s, inside, rfl⟩ := List.mem_map.1 member
        obtain ⟨c, candidate, diversity, final, rfl⟩ := mem_of_rank placed (Page.mem_slice inside)
        obtain ⟨post, visible, vector, made⟩ := candidateOf_of_mem made candidate
        obtain ⟨present, seen⟩ := List.mem_filter.1 visible
        exact ⟨_, found, post, vector, c, diversity, final, rfl,
          stored posts rfl post (mem_inFoundOrder present), seen, made, rfl⟩

theorem computeFrom_shows {query : FeedQuery R} {context : FeedContext R} {weights : Weights R}
    {interest : Embedding C} (loaded : context.IsKnown known) :
    (service.computeFrom query context weights interest).Yields contract
      fun page => ∀ item ∈ page.1.items, known.Shows query.identity item := by
  refine Task.yields_mono (computeFrom_lists informs.serves informs.posts informs.authors)
    fun page lists item member => ?_
  obtain ⟨authors, listed, _, found, post, vector, c, diversity, final, -, stored, seen, made,
    rfl⟩ := lists item member
  obtain rfl := post_of_candidateOf made
  exact ⟨_, _, _, _, requester_viewpointOf query.identity context authors,
    viewpointOf_isKnown loaded listed, seen, stored, rfl⟩

omit informs in
theorem computePageBy_shows {query : FeedQuery R}
    (informs : contract.Informs service query.identity known)
    {load : Text → Task C R (FeedContext R)}
    (gathers : service.Gathers query.identity (load query.identity)) :
    (computePageBy load service query).Yields contract
      fun page => ∀ item ∈ page.1.items, known.Shows query.identity item := by
  refine Task.yields_bind (gathers_yields informs gathers) fun context loaded => ?_
  refine Task.yields_bind (profileWeights_yields informs.serves) fun own _ => ?_
  refine Task.yields_bind (Task.yields_ofRefusal (P := fun _ => True) fun _ _ => trivial)
    fun weights _ => ?_
  split
  · exact emptyPage_yields
  · refine Task.yields_bind (Task.yields_ofExcept (P := fun _ => True) fun _ _ => trivial)
      fun interest _ => ?_
    cases interest with
    | none =>
      exact Task.yields_bind (count_yields informs.serves _) fun _ _ => emptyPage_yields
    | some interest => exact computeFrom_shows informs loaded

theorem computeNeighbours_shows {query : SimilarQuery} {following : Option IdSet}
    {blocked : IdSet} {vector : Tensor C}
    (followed : ∀ set, following = some set → known.following set)
    (blocks : known.blocked blocked) :
    (service.computeNeighbours query following blocked vector).Yields contract
      fun answer => ∀ response, answer = some response → ∀ item ∈ response.items,
        known.Shows query.requester item := by
  have serves := informs.serves
  refine Task.yields_bind (Task.yields_attempt serves.count (Task.yields_bind
    (Task.yields_ofExcept (P := fun _ => True) fun _ _ => trivial)
      fun direction _ => findNeighbours_yields serves)) fun found _ => ?_
  cases found with
  | none => exact noAnswer_yields
  | some found =>
    dsimp only
    split
    · exact noAnswer_yields
    · refine Task.yields_bind (Task.yields_attempt serves.count (informs.posts _))
        fun posts stored => ?_
      cases posts with
      | none => exact noAnswer_yields
      | some posts =>
        refine Task.yields_bind (Task.yields_attempt serves.count (informs.authors _))
          fun authors listed => ?_
        cases authors with
        | none => exact noAnswer_yields
        | some authors =>
          refine Task.yields_bind (Task.yields_ofExcept fun scored made => made)
            fun scored made => Task.yields_pure ?_
          rintro response answered item member
          cases answered
          -- Neither the order nor the cut adds an item, so each passed the filter.
          obtain ⟨s, inside, rfl⟩ := List.mem_map.1 member
          have ranked := (Sorting.sortStrays_perm _ _ _).mem_iff.1 (List.mem_of_mem_take inside)
          obtain ⟨post, visible, scored⟩ := mem_of_mapM made ranked
          obtain ⟨present, seen⟩ := List.mem_filter.1 visible
          rw [← post_of_similarScored scored] at present seen
          exact ⟨_, _, _, _, rfl, requesterView_isKnown followed blocks (listed authors rfl), seen,
            stored posts rfl _ (mem_inFoundOrder present), rfl⟩

omit informs in
theorem computeSimilar_shows {query : SimilarQuery}
    (informs : contract.Informs service query.requester known) :
    (service.computeSimilar (C := C) query).Yields contract
      fun answer => ∀ response, answer = some response → ∀ item ∈ response.items,
        known.Shows query.requester item := by
  have counts := informs.serves.count
  refine Task.yields_bind
    (Task.yields_both (Task.yields_attempt counts (informs.posts _)) <|
      Task.yields_both (Task.yields_attempt counts (fetchVectors_yields informs.serves)) <|
      Task.yields_both (Task.yields_attempt counts informs.following)
        (Task.yields_attempt counts informs.blocked)) ?_
  rintro ⟨source, stored, following, blocked⟩ ⟨_, _, followed, blocks⟩
  -- Whatever could not be found out ends in no answer, so only the branch where all is known shows
  -- items.
  cases source with
  | none => exact noAnswer_yields
  | some posts =>
    cases blocked with
    | none => exact noAnswer_yields
    | some blocked =>
      dsimp only
      split
      · rename_i post _
        refine Task.yields_bind (Task.yields_attempt counts (informs.authors _))
          fun authors _ => ?_
        cases authors with
        | none => exact noAnswer_yields
        | some authors =>
          dsimp only
          split
          · split
            · exact noAnswer_yields
            · exact computeNeighbours_shows informs followed (blocks blocked rfl)
          · exact noAnswer_yields
      · exact noAnswer_yields

variable [PlainText R]

omit informs in
/-- What is found under the key of a page is shown, or a page is computed and may be stored. -/
theorem rankFeedBy_shows {request : FeedRequest R}
    (informs : contract.Informs service request.identity known)
    {load : Text → Task C R (FeedContext R)}
    (gathers : ∀ identity, service.Gathers identity (load identity)) {P : FeedItem R → Prop}
    (shown : ∀ item, known.Shows request.identity item → P item)
    (found : ∀ key : CacheKey, key.IsPageOf request.identity → key.IsProper →
      ∀ value, contract.Finds service.root key value →
      ∀ response, FeedResponse.read value = .valid response → ∀ item ∈ response.items, P item)
    (takes : ∀ key : CacheKey, key.IsPageOf request.identity → key.IsProper →
      ∀ response : FeedResponse R, (∀ item ∈ response.items, known.Shows request.identity item) →
      contract.Takes service.root key response.toJson) :
    (rankFeedBy load service request).Yields contract
      fun response => ∀ item ∈ response.items, P item := by
  refine Task.yields_bind (Task.yields_ofRefusal fun query checked => checked)
    fun query checked => ?_
  have asked := identity_of_checkFeed checked
  refine Task.yields_bind (count_yields informs.serves _) fun _ _ => ?_
  refine Task.yields_bind (Task.yields_ofExcept fun fingerprint made => made)
    fun fingerprint made => ?_
  have proper := proper_of_checkFeed checked made
  have page : (CacheKey.page query.identity fingerprint query.pageSize query.cursor).IsPageOf
      request.identity := asked ▸ ⟨_, _, _, rfl⟩
  refine Task.yields_bind (cached_yields informs.serves _) fun stored known => ?_
  cases stored with
  | some value => exact checked_yields (found _ page proper value (known value rfl))
  | none =>
    -- The page is computed for the checked identity, which is the one of the request.
    rw [← asked] at informs
    refine Task.yields_bind (computePageBy_shows informs (gathers _)) fun page items => ?_
    obtain ⟨response, complete⟩ := page
    rw [asked] at items
    have shown := fun item member => shown item (items item member)
    cases complete with
    | true =>
      exact Task.yields_bind (keep_yields (takes _ page proper response items)) fun _ _ =>
        Task.yields_pure shown
    | false => exact Task.yields_pure shown

omit informs [PlainText R] in
theorem similarPosts_shows {request : SimilarRequest R}
    (informs : contract.Informs service request.requester known) {P : FeedItem R → Prop}
    (shown : ∀ item, known.Shows request.requester item → P item)
    (found : ∀ key : CacheKey, key.IsListFor request.requester → key.IsProper →
      ∀ value, contract.Finds service.root key value →
      ∀ response, SimilarResponse.read value = .valid response → ∀ item ∈ response.items, P item)
    (takes : ∀ key : CacheKey, key.IsListFor request.requester → key.IsProper →
      ∀ response : SimilarResponse R,
      (∀ item ∈ response.items, known.Shows request.requester item) →
      contract.Takes service.root key response.toJson) :
    (service.similarPosts (C := C) request).Yields contract
      fun response => ∀ item ∈ response.items, P item := by
  refine Task.yields_bind (Task.yields_ofRefusal fun query checked => checked)
    fun query checked => ?_
  obtain ⟨asked, n, named⟩ := checkSimilar_ok checked
  -- The id in the key is a written one, so that the key is not taken for another one.
  have proper : (CacheKey.similar query.post query.requester query.limit).IsProper :=
    named ▸ PostId.write_lacks n
  have list : (CacheKey.similar query.post query.requester query.limit).IsListFor
      request.requester := asked ▸ ⟨_, _, rfl⟩
  refine Task.yields_bind (cached_yields informs.serves _) fun stored known => ?_
  cases stored with
  | some value => exact checked_yields (found _ list proper value (known value rfl))
  | none =>
    rw [← asked] at informs
    refine Task.yields_bind (computeSimilar_shows informs) fun answer items => ?_
    cases answer with
    | none => exact Task.yields_pure fun item member => absurd member List.not_mem_nil
    | some response =>
      have items := items response rfl
      rw [asked] at items
      exact Task.yields_bind (keep_yields (takes _ list proper response items)) fun _ _ =>
        Task.yields_pure fun item member => shown item (items item member)

end

end Service

end PersonalFeed
