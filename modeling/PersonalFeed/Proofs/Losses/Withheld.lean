import PersonalFeed.Proofs.Exposure.Outages
import PersonalFeed.Proofs.Losses.Responses
import PersonalFeed.Proofs.Pages.Walk

/-!
Responses that are withheld from the cache. Where a look-up was lost the response is not kept, so
what is under its key stays as it was. All else that is kept is right, and once the stores are back
the same request ends as if nothing had ever failed.
-/

set_option autoImplicit false

namespace PersonalFeed

variable {C R : Type}

def CacheKey.IsPart : CacheKey → Prop
  | interestVector _ | follows _ | blocks _ | seen _ | topics _ | profile _ => True
  | page _ _ _ _ | similar _ _ _ => False

def Request.HasKey [Score R] (config : Config R) : Request R → CacheKey → Prop
  | feed request, key =>
    ∃ query, Service.checkFeed config request = .ok query ∧ query.key? = .ok key
  | similar request, key =>
    ∃ query, Service.checkSimilar config request = .ok query ∧ query.key = key

def Request.Overlooks : Request R → String → Prop
  | feed _, _ => False
  | similar request, name =>
    name = (Query.following request.requester : Query R).name ∨ name = retrievalName

theorem Task.obeys_of_tracks {α : Type} {contract : Contract C R} {spares : String → Prop}
    {answers : Answers C R} {task : Task C R α} (strict : task.IsStrict fun _ => True)
    (tracks : task.Tracks contract answers True) : task.Obeys (contract.lossy spares) :=
  obeys_lossy strict tracks

variable [Score R] [Component C R]

namespace Service

variable {service : Service R} {contract : Contract C R} {spares : String → Prop}

section

variable (serves : contract.Serves)

include serves

theorem fetchPosts_obeys (ids : List Text) :
    Task.Obeys contract (fetchPosts ids : Task C R (List (Post C))) := by
  unfold fetchPosts
  split
  · exact Task.yields_pure trivial
  · refine Task.yields_bind (P := fun _ => True) (Task.yields_query (serves.query _ rfl)
      fun _ _ => trivial) fun rows _ => ?_
    exact Task.yields_ofBreakdown fun _ _ => trivial

omit [Score R] [Component C R] in
theorem fetchAuthors_obeys (ids : List Text) :
    Task.Obeys contract (fetchAuthors ids : Task C R (List Author)) := by
  cases ids with
  | nil => exact Task.yields_pure trivial
  | cons id rest => exact Task.yields_query (serves.query _ rfl) fun _ _ => trivial

variable (takes : ∀ key : CacheKey, key.IsPart → ∀ value, contract.Takes service.root key value)

include takes

theorem carries_of_takes (person : Text) : contract.Carries service person where
  counts := serves.count
  following := loadIds_yields serves (fun _ _ _ _ => trivial)
    (Task.yields_query (serves.query _ rfl) fun _ _ => ⟨takes (.follows person) trivial _, trivial⟩)
  blocked := loadIds_yields serves (fun _ _ _ _ => trivial)
    (Task.yields_query (serves.query _ rfl) fun _ _ => ⟨takes (.blocks person) trivial _, trivial⟩)
  neighbours _ _ _ _ := findNeighbours_yields serves
  posts := fetchPosts_obeys serves
  authors := fetchAuthors_obeys serves

theorem carriesFeed_of_takes (person : Text) : contract.CarriesFeed service person where
  toCarries := carries_of_takes serves takes person
  interest := loadInterest_yields serves (takes (.interestVector person) trivial)
  seen := loadSeen_yields serves (takes (.seen person) trivial)
  topics := loadTopics_yields serves (takes (.topics person) trivial)
  profile := loadProfile_yields serves (takes (.profile person) trivial)

theorem carriesSimilar_of_takes (person : Text) : contract.CarriesSimilar service person where
  toCarries := carries_of_takes serves takes person
  vectors _ := fetchVectors_yields serves

end

section

variable {key : CacheKey} {text : Text}

omit [Score R] [Component C R] in
theorem serves_leaving (text : Text) : (Contract.leaving text : Contract C R).Serves :=
  ⟨fun _ _ => id, fun _ _ _ => id, fun _ => id, fun _ => id, fun _ => id⟩

omit [Score R] [Component C R] in
theorem takes_leaving (root : Text) (key : CacheKey) (response : ¬ key.IsPart) (part : CacheKey)
    (isPart : part.IsPart) (value : Json R) :
    (Contract.leaving (key.text root) : Contract C R).Takes root part value := by
  intro lifetime same
  have kinds := CacheKey.artifact_of_text same
  cases key with
  | page | similar => cases part <;> first | exact isPart | cases kinds
  | interestVector | follows | blocks | seen | topics | profile => exact response trivial

omit [Component C R] in
theorem cached_discloses :
    (service.cached key : Task C R _).Discloses (.leaving text) spares (fun _ => True) True :=
  Task.discloses_of_strict (cached_isStrict key)
    (Task.yields_mono (cached_yields (serves_leaving text) key) fun _ _ => trivial)

theorem rankFeed_withholds {request : FeedRequest R} {query : FeedQuery R}
    (checked : checkFeed service.config request = .ok query) (keyed : query.key? = .ok key) :
    (service.rankFeed (C := C) request).Withholds (service.key key) spares True := by
  obtain ⟨fingerprint, made, keyed⟩ := ok_of_bind keyed
  cases keyed
  have carries := carriesFeed_of_takes (C := C) (serves_leaving _) (takes_leaving service.root
    (.page query.identity fingerprint query.pageSize query.cursor) id) query.identity
  rw [rankFeed, checked]
  change (Task.count .feed >>= fun _ => service.rankFeedChecked query).Withholds _ _ _
  refine Task.withholds_bind (Task.discloses_ask id rfl) fun _ => ?_
  rw [rankFeedChecked, made]
  change (service.cached _ >>= _).Withholds _ _ _
  refine Task.withholds_bind cached_discloses fun found => ?_
  cases found with
  | some value => exact Program.withholds_of_quiet (Task.isStrict_ofExcept _) trivial
  | none =>
    refine Task.withholds_bind (computePage_discloses carries rfl) fun page => ?_
    obtain ⟨response, complete⟩ := page
    cases complete with
    -- An incomplete page is given without being kept, and a complete one is kept only after nothing
    -- failed.
    | false => trivial
    | true =>
      exact Program.withholds_of_quiet (Task.isStrict_bind (keep_isStrict ..) fun _ => trivial) rfl

theorem similarPosts_withholds {request : SimilarRequest R} {query : SimilarQuery}
    (checked : checkSimilar service.config request = .ok query)
    (follows : spares (Query.following query.requester : Query R).name)
    (vectors : spares retrievalName) :
    (service.similarPosts (C := C) request).Withholds (service.key query.key) spares True := by
  have carries := carriesSimilar_of_takes (C := C) (serves_leaving _)
    (takes_leaving service.root query.key id) query.requester
  rw [similarPosts, checked]
  change (service.cached query.key >>= _).Withholds _ _ _
  refine Task.withholds_bind cached_discloses fun found => ?_
  cases found with
  | some value => exact Program.withholds_of_quiet (Task.isStrict_ofExcept _) trivial
  | none =>
    refine Task.withholds_bind (computeSimilar_discloses carries rfl follows vectors) fun list => ?_
    cases list with
    | none => trivial
    | some response =>
      exact Program.withholds_of_quiet (Task.isStrict_bind (keep_isStrict ..) fun _ => trivial) rfl

theorem answer_withholds {request : Request R} (keyed : request.HasKey service.config key) :
    (service.answer request : Task C R _).Withholds (service.key key) request.Overlooks True := by
  cases request with
  | feed request =>
    obtain ⟨query, checked, keyed⟩ := keyed
    exact Task.withholds_map (rankFeed_withholds checked keyed) _
  | similar request =>
    obtain ⟨query, checked, rfl⟩ := keyed
    have asked := (checkSimilar_ok checked).1
    exact Task.withholds_map (similarPosts_withholds checked (.inl (asked ▸ rfl)) (.inr rfl)) _

end

section

variable {answers : Answers C R} {doomed : CacheKey → Prop} (cold : answers.IsCold)

include cold

theorem carries_lossy (asks : Query R → Prop) (person : Text) (following : asks (.following person))
    (blocked : asks (.blocked person)) (content : ∀ ids, asks (.content ids))
    (authors : ∀ ids, asks (.authors ids)) :
    ((coherenceTerms service answers asks doomed).contract.lossy fun _ => False).Carries service
      person where
  counts _ := trivial
  following := Task.obeys_of_tracks (loadFollowing_isStrict trivial)
    (loadFollowing_tracks cold following fun _ => trivial)
  blocked := Task.obeys_of_tracks (loadBlocked_isStrict trivial)
    (loadBlocked_tracks cold blocked fun _ => trivial)
  neighbours _ _ _ _ := Task.obeys_of_tracks (findNeighbours_isStrict trivial)
    (findNeighbours_tracks ..)
  posts _ := Task.obeys_of_tracks (fetchPosts_isStrict fun _ => trivial) (fetchPosts_tracks content _)
  authors _ := Task.obeys_of_tracks (fetchAuthors_isStrict fun _ => trivial)
    (fetchAuthors_tracks authors _)

theorem carriesFeed_lossy (dated : ReadsMarks answers) (reader : Text) :
    ((coherenceTerms service answers (service.asksForFeed reader) doomed).contract.lossy
      fun _ => False).CarriesFeed service reader where
  toCarries := carries_lossy cold _ reader rfl rfl (fun _ => trivial) fun _ => trivial
  interest := Task.obeys_of_tracks (loadInterest_isStrict trivial)
    (loadInterest_tracks cold rfl fun _ => trivial)
  seen := Task.obeys_of_tracks (loadSeen_isStrict fun _ => trivial)
    (loadSeen_tracks cold (fun _ start => ⟨rfl, start⟩) (dated reader) fun _ => trivial)
  topics := Task.obeys_of_tracks (loadTopics_isStrict fun _ => trivial)
    (loadTopics_tracks cold ⟨rfl, rfl⟩ fun _ => trivial)
  profile := Task.obeys_of_tracks (loadProfile_isStrict trivial)
    (loadProfile_tracks cold rfl fun _ => trivial)

theorem carriesSimilar_lossy (requester : Text) :
    ((coherenceTerms service answers (asksForSimilar requester) doomed).contract.lossy
      fun _ => False).CarriesSimilar service requester where
  toCarries := carries_lossy cold _ requester rfl rfl (fun _ => trivial) fun _ => trivial
  vectors _ := Task.obeys_of_tracks (fetchVectors_isStrict trivial) (fetchVectors_tracks _)

omit cold in
theorem cached_obeys {asks : Query R → Prop} {key : CacheKey} (proper : key.IsProper) :
    Task.Obeys ((coherenceTerms service answers asks doomed).contract.lossy fun _ => False)
      (service.cached key : Task C R _) :=
  Task.obeys_lossy (cached_isStrict key) (P := fun _ => True)
    (cached_meets rfl key proper (fun _ => trivial) (fun _ => trivial) fun _ _ _ => trivial)

omit cold in
theorem keep_obeys {asks : Query R → Prop} {key : CacheKey} (proper : key.IsProper)
    (gone : doomed key) (value : Json R) :
    Task.Obeys ((coherenceTerms service answers asks doomed).contract.lossy fun _ => False)
      (service.keep key value : Task C R Unit) :=
  have good : (coherenceTerms service answers asks doomed).good key value := .inr gone
  Task.obeys_lossy (keep_isStrict key value) (P := fun _ => True)
    (keep_meets rfl key proper good (fun _ => trivial) fun _ => trivial)

/-- Whatever is lost, a request for a feed keeps right values, except perhaps its page. -/
theorem rankFeed_obeys [PlainText R] (dated : ReadsMarks answers) {request : FeedRequest R}
    (own : ∀ query key, checkFeed service.config request = .ok query → query.key? = .ok key →
      doomed key) :
    Task.Obeys ((coherenceTerms service answers (service.asksForFeed request.identity)
      doomed).contract.lossy fun _ => False) (service.rankFeed (C := C) request) := by
  refine Task.yields_bind (Task.yields_ofRefusal fun _ checked => checked) fun query checked => ?_
  have same := identity_of_checkFeed checked
  refine Task.yields_bind (Task.yields_ask (P := fun _ => True) trivial fun _ _ => trivial)
    fun _ _ => ?_
  refine Task.yields_bind (Task.yields_ofExcept fun _ made => made) fun fingerprint made => ?_
  have proper := proper_of_checkFeed checked made
  have gone := own query (.page query.identity fingerprint query.pageSize query.cursor) checked
    (by rw [FeedQuery.key?, made]; rfl)
  refine Task.yields_bind (cached_obeys proper) fun found _ => ?_
  cases found with
  | some value => exact Task.yields_ofExcept fun _ _ => trivial
  | none =>
    have discloses : (service.computePage (C := C) query).Discloses
        ((coherenceTerms service answers (service.asksForFeed request.identity) doomed).contract.lossy
          fun _ => False) (fun _ => False) (fun page => page.2 = true) True :=
      computePage_discloses (carriesFeed_lossy cold dated request.identity) same
    refine Task.yields_bind (Task.obeys_of_discloses discloses) fun page _ => ?_
    obtain ⟨response, complete⟩ := page
    -- Even what is kept is under a key of the request, of which nothing is required here.
    cases complete with
    | false => exact Task.yields_pure trivial
    | true =>
      exact Task.yields_bind (keep_obeys proper gone _) fun _ _ => Task.yields_pure trivial

theorem similarPosts_obeys {request : SimilarRequest R}
    (own : ∀ query, checkSimilar service.config request = .ok query → doomed query.key) :
    Task.Obeys ((coherenceTerms service answers (asksForSimilar request.requester)
      doomed).contract.lossy fun _ => False) (service.similarPosts (C := C) request) := by
  refine Task.yields_bind (Task.yields_ofRefusal fun _ checked => checked) fun query checked => ?_
  obtain ⟨asked, n, named⟩ := checkSimilar_ok checked
  have proper : query.key.IsProper := by
    change query.post.Lacks ':'
    exact named ▸ PostId.write_lacks n
  refine Task.yields_bind (cached_obeys proper) fun found _ => ?_
  cases found with
  | some value => exact Task.yields_ofExcept fun _ _ => trivial
  | none =>
    have discloses : (service.computeSimilar (C := C) query).Discloses
        ((coherenceTerms service answers (asksForSimilar request.requester) doomed).contract.lossy
          fun _ => False) (fun _ => True) (fun list => list.isSome = true) True :=
      computeSimilar_discloses (carriesSimilar_lossy cold request.requester) asked trivial trivial
    refine Task.yields_bind (Task.obeys_of_discloses discloses) fun list _ => ?_
    cases list with
    | none => exact Task.yields_pure trivial
    | some response =>
      exact Task.yields_bind (keep_obeys proper (own query checked) _)
        fun _ _ => Task.yields_pure trivial

/-- Whatever is lost, a request keeps right values, except perhaps its response. -/
theorem answer_obeys [PlainText R] (dated : ReadsMarks answers) (request : Request R)
    (own : ∀ key, request.HasKey service.config key → doomed key) :
    Task.Obeys ((coherenceTerms service answers (service.asksFor request) doomed).contract.lossy
      fun _ => False) (service.answer request : Task C R _) := by
  cases request with
  | feed request =>
    exact Task.yields_bind (rankFeed_obeys cold dated fun query key checked keyed =>
      own key ⟨query, checked, keyed⟩) fun _ _ => Task.yields_pure trivial
  | similar request =>
    exact Task.yields_bind (similarPosts_obeys cold fun query checked =>
      own query.key ⟨query, checked, rfl⟩) fun _ _ => Task.yields_pure trivial

end

end Service

namespace Deployment

variable {deployment : Deployment C R} {service : Service R}

def SameUnder (written : String) (deployment other : Deployment C R) : Prop :=
  other.cache.isOn = deployment.cache.isOn ∧
    other.cache.entries.filter (·.1 = written) = deployment.cache.entries.filter (·.1 = written)

theorem reply_leaves {text : Text} {written : String} (encoded : text.toString? = some written)
    {call : Call C R} (leaves : ¬ call.Alters text) (deployment : Deployment C R) :
    deployment.SameUnder written (reply call deployment).2 := by
  have quiet {other : Deployment C R} (same : other.cache = deployment.cache) :
      deployment.SameUnder written other := by
    rw [SameUnder, same]
    exact ⟨rfl, rfl⟩
  cases call with
  | query | search | retrieve | index | openIndex | read | scan | count =>
    exact quiet (cache_reply (by simp) (by simp) deployment)
  | delete => exact absurd trivial leaves
  | write key value lifetime =>
    refine ⟨CacheStore.isOn_write .., CacheStore.filter_write (fun same => leaves ?_) ..⟩
    exact (Text.ofString_of_toString? same).symm.trans (Text.ofString_of_toString? encoded)

theorem replyUnless_leaves {text : Text} {written : String}
    (encoded : text.toString? = some written) (fails : Nat → Call C R → Option Failure)
    {call : Call C R} (leaves : ¬ call.Alters text) (state : Nat × Deployment C R) :
    state.2.SameUnder written (replyUnless fails call state).2.2 := by
  obtain ⟨place, deployment⟩ := state
  cases fault : fails place call with
  | some failure =>
    rw [replyUnless_some fault]
    exact ⟨rfl, rfl⟩
  | none =>
    rw [replyUnless_none fault]
    exact reply_leaves encoded leaves deployment

/-- Stores that fail at times keep the contract of requests on a coherent cache, as far as they
answer. -/
theorem keptBy_lossy {start : Deployment C R} {asks : Query R → Prop} {doomed : CacheKey → Prop}
    (reading : ∀ query, asks query → query.isReading = true)
    (fails : Nat → Call C R → Option Failure) :
    ((coherenceTerms service start.answers asks doomed).contract.lossy fun _ => False).KeptBy
      (replyUnless fails)
      fun state => start.SameStores state.2 ∧ state.2.IsCoherent service doomed := by
  rintro call ⟨place, deployment⟩ holds allowed
  cases fault : fails place call with
  | none =>
    rw [replyUnless_none fault]
    obtain ⟨admitted, goesOn⟩ := keptBy_reply reading call deployment holds allowed
    exact ⟨.inr admitted, goesOn⟩
  | some failure =>
    rw [replyUnless_some fault]
    refine ⟨?_, holds⟩
    cases call with
    | query | search | retrieve =>
      exact .inl ⟨fun value => outcome_ne_answer failure value, fun _ _ => id⟩
    | read key => exact .inr fun entry found => by cases found
    | write | count => exact .inr trivial
    | index | openIndex | delete | scan => exact allowed.elim

end Deployment

namespace Service

/-- A request that lost a look-up, on any stores that fail in any way, keeps no response: what is
under its key stays as it was. If no cached value was wrong before, the same request then ends as it
would without a cache on stores that never fail. Two look-ups of a list of similar posts may be lost
without that. -/
theorem degraded_isWithheld [FaithfulText R] (service : Service R) (request : Request R)
    (fails : Nat → Call C R → Option Failure) (deployment : Deployment C R)
    (lost : ∃ exchange ∈ (service.answer request).run.trace (Deployment.replyUnless fails)
      (0, deployment), exchange.IsLost request.Overlooks) :
    let after := ((service.answer request).run.run (Deployment.replyUnless fails)
      (0, deployment)).2.2
    (∀ key, request.HasKey service.config key →
      (∀ exchange ∈ (service.answer request).run.trace (Deployment.replyUnless fails)
        (0, deployment), ¬ exchange.call.Alters (service.key key)) ∧
      ∀ written, (service.key key).toString? = some written →
        after.cache.read written = deployment.cache.read written) ∧
    ∀ doomed, CacheKey.Spreads doomed → deployment.IsCoherent service doomed →
      (∃ key, request.LooksUp key ∧ doomed key) ∨
        (after.perform (service.answer request)).1 =
          (service.answer request).eval deployment.answers := by
  intro after
  have withheld (key : CacheKey) (keyed : request.HasKey service.config key) :
      ∀ exchange ∈ (service.answer request).run.trace (Deployment.replyUnless fails)
        (0, deployment), ¬ exchange.call.Alters (service.key key) := by
    intro exchange made alters
    obtain ⟨gone, member, isLost⟩ := lost
    exact (Program.trace_of_withholds (answer_withholds keyed) _ _ made alters).2 gone member isLost
  have stays (key : CacheKey) (keyed : request.HasKey service.config key) {written : String}
      (encoded : (service.key key).toString? = some written) :
      deployment.SameUnder written after := by
    have kept (exchange : Exchange C R) (made : exchange ∈ (service.answer request).run.trace
        (Deployment.replyUnless fails) (0, deployment)) (state : Nat × Deployment C R)
        (same : deployment.SameUnder written state.2) : deployment.SameUnder written
          (Deployment.replyUnless fails exchange.call state).2.2 := by
      have next := Deployment.replyUnless_leaves encoded fails (withheld key keyed exchange made)
        state
      exact ⟨next.1.trans same.1, next.2.trans same.2⟩
    exact Program.run_preserves ⟨rfl, rfl⟩ kept
  refine ⟨fun key keyed => ⟨withheld key keyed, fun written encoded => ?_⟩,
    fun doomed spreads coherent => ?_⟩
  · exact CacheStore.read_congr (stays key keyed encoded).1 (stays key keyed encoded).2
  -- The response of this run is the only value that may be wrong, and it was not kept.
  · have start : deployment.IsCoherent service fun key =>
        doomed key ∨ request.HasKey service.config key := coherent.mono fun _ => .inl
    obtain ⟨same, ends⟩ := (Program.meets_run
      (Deployment.keptBy_lossy (fun _ => isReading_of_asksFor) fails)
      (answer_obeys deployment.isCold_answers (Deployment.readsMarks coherent.dated) request
        fun _ => .inr) (0, deployment) ⟨⟨rfl, rfl, rfl, rfl⟩, start⟩).2
    have answered := Deployment.answers_congr same
    have recovered : after.IsCoherent service doomed := by
      refine coherent.goesOn same ends.quiet ends.on fun entry member => ?_
      obtain ⟨key, value, proper, encoded, document, right | gone | keyed⟩ := ends.cache entry member
      · exact ⟨key, value, proper, encoded, document, .inl (answered ▸ right)⟩
      · exact ⟨key, value, proper, encoded, document, .inr gone⟩
      · have inside : entry ∈ after.cache.entries.filter (·.1 = entry.1) :=
          List.mem_filter.2 ⟨member, decide_eq_true rfl⟩
        rw [(stays key keyed encoded).2] at inside
        exact coherent.cache entry (List.mem_filter.1 inside).1
    exact answered ▸ (perform_answer request spreads recovered).1

end Service

def withoutInterest : Nat → Call ℚ ℚ → Option Failure
  | _, .query (.interestVector _) => some .hang
  | _, _ => none

theorem degraded_isWithheld_of_twoPosts :
    let service : Service ℚ := .standard "discovery" ⟨0, 0⟩
    let request : Request ℚ := .feed ⟨"ann", .int 1, .null, []⟩
    let after := ((service.answer request).run.run (Deployment.replyUnless withoutInterest)
      (0, twoPosts)).2.2
    (after.perform (service.answer request)).1 =
      (service.answer request).eval twoPosts.answers := by
  intro service request after
  have coherent : twoPosts.IsCoherent service fun _ => False :=
    ⟨rfl, rfl, twoPosts_isSound.tables.dated, CacheStore.holds_of_empty rfl⟩
  have lost : ∃ exchange ∈ (service.answer request).run.trace
      (Deployment.replyUnless withoutInterest) (0, twoPosts),
      exchange.IsLost request.Overlooks := by
    -- The look-up comes after the reads of the page and of the cached interest, and their counts.
    have sixth : ((service.answer request).run.trace (Deployment.replyUnless withoutInterest)
        (0, twoPosts))[5]? = some ⟨.query (.interestVector "ann"), .silent⟩ := by
      with_unfolding_all rfl
    refine ⟨_, List.mem_of_getElem? sixth, ⟨?_, fun _ _ => id⟩⟩
    intro value same
    cases same
  exact ((Service.degraded_isWithheld service request withoutInterest twoPosts lost).2 _
    ⟨fun _ _ _ => False.elim, fun _ _ _ => False.elim⟩ coherent).resolve_left
      fun ⟨_, _, gone⟩ => gone

end PersonalFeed
