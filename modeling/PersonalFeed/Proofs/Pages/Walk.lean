import PersonalFeed.Proofs.Cache.Distinct
import PersonalFeed.Proofs.Number.Exact
import PersonalFeed.Proofs.Pages.Evaluation

/-!
Walks over a feed. A reader asks for the first page and follows the cursors; each page is computed
anew, partly out of what the requests before it left in the cache. On stores that do not change all
of them are pages of one ranking, so the walk ends and shows the ranking once and in order.
-/

set_option autoImplicit false

namespace PersonalFeed

variable {C R : Type}

def FeedResponse.page (response : FeedResponse R) : Page (FeedItem R) :=
  ⟨response.items, response.next, response.hasNext⟩

def FeedRequest.following (request : FeedRequest R) (response : FeedResponse R) : FeedRequest R :=
  { request with cursor := .ofOption .string response.next }

namespace PostId

variable {id : Text}

theorem exists_of_isCanonical (canonical : IsCanonical id) : ∃ n, id = write n := by
  obtain ⟨n, _, written⟩ := Option.map_eq_some_iff.1 canonical.1
  exact ⟨n, written.symm⟩

theorem isWhole_write (n : Nat) : (write n).isWhole = true := by
  rw [Text.isWhole, write, Text.ofChars, List.all_map]
  exact List.all_eq_true.2 fun _ _ => rfl

theorem isWhole_of_isCanonical (canonical : IsCanonical id) : id.isWhole = true := by
  obtain ⟨n, rfl⟩ := exists_of_isCanonical canonical
  exact isWhole_write n

theorem check_string (field : Text) (canonical : IsCanonical id) :
    check field (.string id : Json R) = .ok id := by
  obtain ⟨n, written⟩ := exists_of_isCanonical canonical
  have named : id.isEmpty = false := by
    have long := length_write n
    rw [← written, Text.length] at long
    cases codes : id.codes with
    | nil =>
      rw [codes] at long
      cases long
    | cons => rw [Text.isEmpty, codes]; rfl
  rw [check, named, if_neg Bool.false_ne_true, canonical.2, if_pos canonical.1]

theorem checkCursor_string (canonical : IsCanonical id) :
    checkCursor (.string id : Json R) = .ok (some id) := by
  change (check "cursor" _).map some = _
  rw [check_string "cursor" canonical]
  rfl

end PostId

namespace Service

variable [Score R] {service : Service R} {request : FeedRequest R} {query : FeedQuery R}

theorem checkFeed_of_cursor (checked : checkFeed service.config request = .ok query)
    {cursor : Json R} {place : Option Text} (read : PostId.checkCursor cursor = .ok place) :
    checkFeed service.config { request with cursor := cursor } =
      .ok { query with cursor := place } := by
  have reads := checkFeed_ok_iff.1 checked
  exact checkFeed_ok_iff.2 { reads with cursor := read }

theorem isWhole_cursor (checked : checkFeed service.config request = .ok query) (cursor : Text)
    (placed : query.cursor = some cursor) : cursor.isWhole = true := by
  obtain ⟨n, rfl⟩ := PostId.checkCursor_ok (cursor_of_checkFeed checked) cursor placed
  exact PostId.isWhole_write n

omit [Score R] in
theorem positive_of_pageSize {config : Config R} {given : Json R} {size : Nat}
    (sized : pageSize config given = .ok size) : 0 < size := by
  have positive {given : Json R}
      (sized : Page.checkSize config.ranking.largestPageSize given = .ok size) : 0 < size := by
    unfold Page.checkSize at sized
    split at sized
    · split at sized
      · cases sized
      · cases sized
        omega
    · cases sized
  unfold pageSize at sized
  split at sized
  · exact positive sized
  · exact positive sized

theorem size_of_checkFeed (checked : checkFeed service.config request = .ok query) :
    0 < query.pageSize :=
  positive_of_pageSize (checkFeed_ok_iff.1 checked).size

variable [Component C R] {deployment other : Deployment C R}

/-- What follows the cursors from a request on to the end: the responses in their order. Each
request finds what the ones before it left in the cache. -/
inductive Walks (service : Service R) :
    Deployment C R → FeedRequest R → List (FeedResponse R) → Prop where
  | last {deployment : Deployment C R} {request : FeedRequest R} {response : FeedResponse R} :
      (deployment.perform (service.answer (.feed request))).1 = .ok (.feed response) →
      response.hasNext = false → Walks service deployment request [response]
  | next {deployment : Deployment C R} {request : FeedRequest R} {response : FeedResponse R}
      {rest : List (FeedResponse R)} :
      (deployment.perform (service.answer (.feed request))).1 = .ok (.feed response) →
      response.hasNext = true →
      Walks service (deployment.perform (service.answer (.feed request))).2
        (request.following response) rest → Walks service deployment request (response :: rest)

section

variable {weights : Weights R} {selection : Selection C R} {ranked : List (Scored C R)}

omit [Component C R] in
theorem page_pageOf (service : Service R) (query : FeedQuery R) (authors : List Author)
    (ranked : List (Scored C R)) :
    (service.pageOf query authors ranked).page =
      (Page.slice (fun s : Scored C R => s.post.id) ranked query.pageSize query.cursor).map
        (Scored.item authors service.sign) := rfl

omit [Score R] [Component C R] in
theorem pageKey_written (root : service.root.isWhole = true) {fingerprint : Text}
    (plain : fingerprint.isWhole = true) (whole : query.identity.isWhole = true)
    (place : ∀ cursor, query.cursor = some cursor → cursor.isWhole = true) :
    (service.key (.page query.identity fingerprint query.pageSize query.cursor)).toString? ≠
      none := by
  have cursor : (CacheKey.cursorPart query.cursor).isWhole = true := by
    unfold CacheKey.cursorPart
    split
    · decide
    · split
      · decide
      · exact place _ ‹_›
  refine written_of_whole _ root ?_
  simp only [CacheKey.parts, List.all_cons, List.all_nil, whole, plain, Text.isWhole_ofString,
    cursor, Bool.and_self]

/-- A request whose key can be written ends as the computation of its page does. -/
theorem eval_feed_of_page [FaithfulText R] (root : service.root.isWhole = true)
    (checked : checkFeed service.config request = .ok query)
    (whole : query.identity.isWhole = true) (once : (query.overrides.map Prod.fst).Nodup)
    (place : ∀ cursor, query.cursor = some cursor → cursor.isWhole = true) :
    (service.answer (.feed request)).eval deployment.answers =
      ((service.computePage query).eval deployment.answers).map fun page => .feed page.1 := by
  obtain ⟨_, accepted⟩ := accepted_of_checkFeed checked
  obtain ⟨fingerprint, made, plain⟩ := Weights.fingerprint_isOk once accepted
  have written := pageKey_written root plain whole place
  -- Without anything cached, the look-up comes to nothing and the keeping to no more than the page.
  have feed : (service.rankFeed (C := C) request).eval deployment.answers =
      ((service.computePage query).eval deployment.answers).map Prod.fst := by
    refine (Task.eval_bind_ok (Task.eval_ofRefusal_ok checked) _).trans ?_
    refine (Task.eval_bind_ok (Task.eval_ask _) _).trans ?_
    refine (Task.eval_bind_ok (Task.eval_ofExcept_ok made) _).trans ?_
    refine (Task.eval_bind_ok (eval_cached deployment.isCold_answers written) _).trans ?_
    refine (Task.eval_bind _ _).trans ?_
    cases (service.computePage query).eval deployment.answers with
    | error stop => rfl
    | ok page =>
      obtain ⟨response, complete⟩ := page
      cases complete with
      | false => rfl
      | true => exact Task.eval_bind_ok (eval_keep written _) _
  refine (Task.eval_bind _ _).trans ?_
  rw [feed]
  cases (service.computePage query).eval deployment.answers with
  | error stop => rfl
  | ok page => rfl

theorem eval_feed [FaithfulText R] (ready : service.IsSound) (sound : deployment.IsSound)
    (checked : checkFeed service.config request = .ok query)
    (whole : query.identity.isWhole = true) (once : (query.overrides.map Prod.fst).Nodup)
    (place : ∀ cursor, query.cursor = some cursor → cursor.isWhole = true)
    (weighed : service.weightsFor deployment.tables query = .ok weights)
    (selected : service.select query.identity deployment query.pageSize = .ok selection)
    (ordered : rank weights service.config.ranking.diversityThreshold selection.candidates =
      .ok ranked) :
    (service.answer (.feed request)).eval deployment.answers =
      .ok (.feed (service.pageOf query selection.authors ranked)) := by
  obtain ⟨own, given, accepted⟩ := ok_of_bind weighed
  have accepted := ok_of_mapError accepted
  have computed := eval_computePage ready sound whole (size_of_checkFeed checked) given accepted
    selected
  rw [ordered] at computed
  obtain ⟨⟨response, complete⟩, ended, shown⟩ := ok_of_map computed
  cases shown
  rw [eval_feed_of_page ready.root checked whole once place, ended]
  rfl

theorem ranks_of_eval [FaithfulText R] [SignRules R] (ready : service.IsSound)
    (sound : deployment.IsSound) (whole : request.identity.isWhole = true)
    (once : (request.overrides.map Prod.fst).Nodup) {response : FeedResponse R}
    (answered : (service.answer (.feed request)).eval deployment.answers = .ok (.feed response)) :
    ∃ query weights selection ranked,
      checkFeed service.config request = .ok query ∧
      service.weightsFor deployment.tables query = .ok weights ∧
      service.select query.identity deployment query.pageSize = .ok selection ∧
      rank weights service.config.ranking.diversityThreshold selection.candidates = .ok ranked ∧
      response = service.pageOf query selection.authors ranked := by
  cases checked : checkFeed service.config request with
  | error cause =>
    simp only [answer, rankFeed, checked] at answered
    cases answered
  | ok query =>
    have person : query.identity.isWhole = true := identity_of_checkFeed checked ▸ whole
    have given := overrides_of_checkFeed checked
    rw [eval_feed_of_page ready.root checked person (given ▸ once) (isWhole_cursor checked)]
      at answered
    obtain ⟨page, computed, shown⟩ := ok_of_map answered
    -- There were weights, or the page would have ended as they did.
    cases weighed : service.weightsFor deployment.tables query with
    | error fault =>
      rw [eval_computePage_unweighed ready sound person weighed] at computed
      cases computed
    | ok weights =>
      obtain ⟨own, given, accepted⟩ := ok_of_bind weighed
      obtain ⟨selection, selected, -⟩ := select_isOk ready sound query.identity query.pageSize
      have ended := eval_computePage ready sound person (size_of_checkFeed checked) given
        (ok_of_mapError accepted) selected
      rw [computed] at ended
      obtain ⟨ranked, ordered, same⟩ := ok_of_map ended.symm
      cases shown
      exact ⟨query, weights, selection, ranked, rfl, weighed, selected, ok_of_mapError ordered,
        same.symm⟩

end

theorem perform_coherent [FaithfulText R]
    (coherent : deployment.IsCoherent service fun _ => False) (request : Request R) :
    (deployment.perform (service.answer request)).1 =
        (service.answer request).eval deployment.answers ∧
      deployment.SameStores (deployment.perform (service.answer request)).2 ∧
      (deployment.perform (service.answer request)).2.IsCoherent service fun _ => False := by
  have spreads : CacheKey.Spreads fun _ => False :=
    ⟨fun _ _ _ gone => gone.elim, fun _ _ _ gone => gone.elim⟩
  obtain ⟨ended, after⟩ := perform_answer request spreads coherent
  exact ⟨ended.resolve_left fun ⟨_, _, gone⟩ => gone, after⟩

/-- A walk whose requests all end with their pages of one ranking visits the pages of a walk over
that ranking. -/
theorem walks_ranking [FaithfulText R] {ranked : List (Scored C R)} {authors : List Author}
    (positive : 0 < query.pageSize) (distinct : (ranked.map fun s => s.post.id).Nodup)
    (named : ∀ s ∈ ranked, PostId.IsCanonical s.post.id)
    (shows : ∀ cursor place, PostId.checkCursor cursor = .ok place →
      (service.answer (.feed { request with cursor := cursor })).eval deployment.answers =
        .ok (.feed (service.pageOf { query with cursor := place } authors ranked)))
    (fuel : Nat) {start : Nat} {cursor : Json R} {place : Option Text}
    (read : PostId.checkCursor cursor = .ok place)
    (here : Page.slice (fun s : Scored C R => s.post.id) ranked query.pageSize place =
      Page.startingAt (fun s : Scored C R => s.post.id) ranked start query.pageSize)
    (enough : Page.pagesFor query.pageSize (ranked.length - start) ≤ fuel)
    (same : deployment.SameStores other)
    (coherent : other.IsCoherent service fun _ => False) :
    ∃ responses, service.Walks other { request with cursor := cursor } responses ∧
      responses.map FeedResponse.page =
        (Page.walkFrom (fun s : Scored C R => s.post.id) ranked query.pageSize fuel place).map
          (Page.map (Scored.item authors service.sign)) := by
  -- The cache differs from request to request but stays coherent, so each is answered as on an
  -- empty one: with its page of the same ranking.
  induction fuel generalizing start cursor place other with
  | zero => exact absurd enough (by unfold Page.pagesFor; omega)
  | succ fuel ih =>
    obtain ⟨ended, after, stays⟩ :=
      perform_coherent coherent (.feed { request with cursor := cursor })
    rw [Deployment.answers_congr same, shows cursor place read] at ended
    have page := page_pageOf service { query with cursor := place } authors ranked
    rw [here] at page
    rw [Page.walkFrom, here]
    cases more : (Page.startingAt (fun s : Scored C R => s.post.id) ranked start
        query.pageSize).hasNext with
    | false =>
      rw [if_neg Bool.false_ne_true]
      refine ⟨_, .last ended ?_, ?_⟩
      · exact (congrArg Page.hasNext page).trans more
      · exact congrArg (· :: []) page
    | true =>
      have inside := Page.hasNext_startingAt.1 more
      obtain ⟨s, member, next⟩ := Page.exists_next positive more
      -- The cursor that is returned is accepted as it is, and leads to where this page ends.
      have canonical := named s member
      have leads := Page.slice_next positive distinct more
      rw [Page.pagesFor_of_lt positive (by omega)] at enough
      rw [next] at leads ⊢
      obtain ⟨rest, walked, pages⟩ := ih (PostId.checkCursor_string canonical) leads
        (by rw [Nat.sub_add_eq]; omega) (same.trans after) stays
      rw [if_pos rfl]
      refine ⟨_ :: rest, .next ended ?_ ?_, ?_⟩
      · exact (congrArg Page.hasNext page).trans more
      · have named : (service.pageOf { query with cursor := place } authors ranked).next =
            some s.post.id := (congrArg Page.next page).trans next
        rw [FeedRequest.following, named]
        exact walked
      · rw [List.map_cons, List.map_cons, pages]
        exact congrArg (· :: _) page

omit [Component C R] in
theorem isProper_of_weightsFor (ready : service.IsSound) {tables : Tables R} {weights : Weights R}
    (weighed : service.weightsFor tables query = .ok weights) : weights.IsProper := by
  obtain ⟨own, given, accepted⟩ := ok_of_bind weighed
  refine Weights.isProper_of_withOverrides ?_ (ok_of_mapError accepted)
  have configured := Config.isProper_of_accepted ready.accepted
  unfold weightsOf at given
  split at given
  · exact Except.ok.inj given ▸ configured
  · split at given
    · exact Except.ok.inj given ▸ configured
    · split at given
      · rename_i stored
        exact Except.ok.inj given ▸ Weights.isProper_of_stored stored
      · exact Except.ok.inj given ▸ configured
      · cases given

/-- A reader who follows the cursors from the first page gets to the end, and is shown the ranking
of all that was retrieved, is stored and may be seen: each post once and in its place, on full pages
but for the last one. -/
theorem walks_partition [FaithfulText R] [SignRules R] (ready : service.IsSound)
    (sound : deployment.IsSound) (works : deployment.rules = []) (on : deployment.cache.isOn = true)
    (empty : deployment.cache.entries = []) (top : request.cursor = .null)
    (checked : checkFeed service.config request = .ok query)
    (whole : query.identity.isWhole = true) (once : (query.overrides.map Prod.fst).Nodup)
    {weights : Weights R} (weighed : service.weightsFor deployment.tables query = .ok weights)
    (numbers : ∀ selection,
      service.select query.identity deployment query.pageSize = .ok selection →
      ∀ c ∈ selection.candidates, ∀ hits, Scalar.isNaN (c.finalWith weights hits) = false) :
    ∃ selection ranked responses,
      service.select query.identity deployment query.pageSize = .ok selection ∧
      rank weights service.config.ranking.diversityThreshold selection.candidates = .ok ranked ∧
      (ranked.map Scored.post).Perm selection.visible ∧
      (selection.visible.map Post.id).Nodup ∧
      service.Walks deployment request responses ∧
      Page.Partition (responses.map FeedResponse.page)
        (hydrate selection.authors service.sign ranked) query.pageSize := by
  obtain ⟨selection, selected, faithful⟩ := select_isOk ready sound query.identity query.pageSize
  have proper := isProper_of_weightsFor ready weighed
  have up : ∀ c ∈ selection.candidates, ∀ hits, Scalar.isBottom (c.finalWith weights hits) = false :=
    fun c member hits => Candidate.isBottom_finalWith proper (faithful.up c member) hits
  obtain ⟨ranked, ordered⟩ : ∃ ranked, rank weights service.config.ranking.diversityThreshold
      selection.candidates = .ok ranked :=
    rank_isOk SignRules.le_refl up (numbers selection selected)
  have posts := posts_of_rank up ordered
  rw [faithful.posts] at posts
  have distinct : (ranked.map fun s => s.post.id).Nodup := by
    have ids := posts.map Post.id
    rw [List.map_map] at ids
    exact ids.nodup_iff.2 faithful.distinct
  have named : ∀ s ∈ ranked, PostId.IsCanonical s.post.id := by
    intro s member
    obtain ⟨row, there, same⟩ := faithful.stored _ (posts.mem_iff.1 (List.mem_map_of_mem member))
    exact same ▸ sound.tables.named row there
  have positive := size_of_checkFeed checked
  have start : PostId.checkCursor request.cursor = .ok none := by rw [top]; rfl
  have coherent : deployment.IsCoherent service fun _ => False :=
    ⟨works, on, sound.tables.dated, CacheStore.holds_of_empty empty⟩
  have shows (cursor : Json R) (place : Option Text)
      (read : PostId.checkCursor cursor = .ok place) :
      (service.answer (.feed { request with cursor := cursor })).eval deployment.answers =
        .ok (.feed (service.pageOf { query with cursor := place } selection.authors ranked)) := by
    refine eval_feed ready sound (checkFeed_of_cursor checked read) whole once (fun post same => ?_)
      weighed selected ordered
    obtain ⟨n, rfl⟩ := PostId.checkCursor_ok read post same
    exact PostId.isWhole_write n
  -- All requests have one ranking, so the walk over the pages is one over this list.
  have here : Page.slice (fun s : Scored C R => s.post.id) ranked query.pageSize none =
      Page.startingAt (fun s : Scored C R => s.post.id) ranked 0 query.pageSize := rfl
  obtain ⟨responses, walked, pages⟩ := walks_ranking positive distinct named shows _ start here
    (Nat.le_refl _) ⟨rfl, rfl, rfl, rfl⟩ coherent
  refine ⟨selection, ranked, responses, selected, ordered, posts, faithful.distinct, walked, ?_⟩
  rw [pages]
  exact (Page.walkFrom_partition positive distinct _ here (Nat.le_refl _)).map _

end Service

def twoPosts : Deployment ℚ ℚ where
  tables :=
    { users := [⟨"ann", "ann", none, none, false, some (List.replicate 1024 (.int 1)), .null, none⟩,
        ⟨"bob", "bob", none, none, false, none, .null, none⟩]
      follows := []
      blocks := []
      posts := [⟨"0f0e0d0c-0b0a-4908-8706-050403020100", "bob", some "first", ⟨0, 0⟩, 0, 0, [], none,
          none, none, none⟩,
        ⟨"1f0e0d0c-0b0a-4908-8706-050403020100", "bob", some "second", ⟨0, 0⟩, 0, 0, [], none, none,
          none, none⟩]
      saves := []
      seen := [] }
  cache := .empty
  index := ⟨[⟨"0f0e0d0c-0b0a-4908-8706-050403020100", "bob", .replicate (1 / 32)⟩,
    ⟨"1f0e0d0c-0b0a-4908-8706-050403020100", "bob", .replicate (1 / 32)⟩]⟩
  fixedSearch := none
  fixedRetrieval := none
  limits := []
  rules := []
  metrics := .empty

theorem Service.isSound_of_defaults {R : Type} [Score R]
    (finite : ∀ signal, Scalar.isFinite ((Weights.default : Weights R).get signal) = true)
    (proper : (Weights.default : Weights R).IsProper)
    (kept : (⟨.default, .standard, .standard⟩ : Config R).broken.isEmpty = true) :
    (Service.standard "discovery" ⟨0, 0⟩ : Service R).IsSound where
  accepted := by
    obtain ⟨settings, _, weights, ranking, lifetimes⟩ := Settings.read_nothing (R := R)
    refine ⟨settings, ?_⟩
    rw [Config.ofSettings, weights, ranking, lifetimes, Weights.check_reals finite proper]
    exact if_pos kept
  root := Text.isWhole_ofString "discovery"
  window := ⟨_, rfl⟩
  history := rfl

theorem Service.standard_isSound : (Service.standard "discovery" ⟨0, 0⟩ : Service ℚ).IsSound :=
  isSound_of_defaults (fun _ => rfl) Weights.default_isProper (by decide +kernel)

theorem twoPosts_isSound : twoPosts.IsSound where
  tables := {
    dated := by
      refine ⟨fun row member => ?_, fun mark member => absurd member List.not_mem_nil⟩
      rcases List.mem_pair.1 member with rfl | rfl <;> exact ⟨rfl, by decide⟩
    stored := by
      intro row member
      rcases List.mem_pair.1 member with rfl | rfl <;> rfl
    named := by
      intro row member
      rcases List.mem_pair.1 member with rfl | rfl <;> exact ⟨by decide +kernel, by decide +kernel⟩
    embeddings := by
      intro row member entries stored
      rcases List.mem_pair.1 member with rfl | rfl <;> cases stored
    interests := by
      intro user member components stored component inside
      rcases List.mem_pair.1 member with rfl | rfl
      · cases stored
        rw [List.eq_of_mem_replicate inside]
        exact ⟨_, rfl, rfl⟩
      · cases stored
    muted := by
      intro user member keyword inside
      rcases List.mem_pair.1 member with rfl | rfl <;> cases inside }
  distinct := by decide
  written := by
    intro point member
    rcases List.mem_pair.1 member with rfl | rfl <;> decide
  asked := rfl

/-- A walk over two posts, one a page. -/
theorem walks_partition_of_twoPosts :
    let service : Service ℚ := .standard "discovery" ⟨0, 0⟩
    let request : FeedRequest ℚ := ⟨"ann", .int 1, .null, []⟩
    ∃ selection ranked responses,
      service.select "ann" twoPosts 1 = .ok selection ∧
      rank .default service.config.ranking.diversityThreshold selection.candidates = .ok ranked ∧
      (ranked.map Scored.post).Perm selection.visible ∧
      (selection.visible.map Post.id).Nodup ∧
      service.Walks twoPosts request responses ∧
      Page.Partition (responses.map FeedResponse.page)
        (hydrate selection.authors service.sign ranked) 1 := by
  intro service request
  have checked : Service.checkFeed service.config request = .ok ⟨"ann", 1, none, []⟩ := rfl
  exact Service.walks_partition Service.standard_isSound twoPosts_isSound rfl rfl rfl rfl checked
    (by decide) .nil rfl fun _ _ _ _ _ => rfl

end PersonalFeed
