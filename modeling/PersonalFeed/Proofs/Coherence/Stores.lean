import PersonalFeed.Deployment
import PersonalFeed.Proofs.Coherence.Responses
import PersonalFeed.Proofs.Store.Changes

/-!
Requests on stores that never fail. The answers of the stores do not depend on the cache, and a
request leaves them as they are. On a coherent cache it ends as on an empty one and leaves the cache
coherent.
-/

set_option autoImplicit false

namespace PersonalFeed

variable {C R : Type}

theorem SeenMap.ofJson_toJson {marks : List (Text × Timestamp)}
    (stored : ∀ mark ∈ marks, mark.2.IsStored) :
    ofJson (toJson marks : Json R) = .ok (ofMarks marks) := by
  unfold toJson ofJson
  dsimp only
  induction marks with
  | nil => rfl
  | cons mark rest ih =>
    have later := ih fun other member => stored other (List.mem_cons_of_mem _ member)
    have moment := momentOfJson_isoText (R := R) (stored mark List.mem_cons_self)
    rw [List.map_cons, List.mapM_cons, later]
    dsimp only
    rw [moment]
    rfl

theorem Tables.seenSince_isStored {tables : Tables R} (dated : tables.IsDated) (identity : Text)
    (since : Timestamp) : ∀ mark ∈ tables.seenSince identity since, mark.2.IsStored := by
  intro mark member
  obtain ⟨row, inside, rfl⟩ := List.mem_map.1 member
  exact dated.seen row (List.mem_filter.1 inside).1

variable [Score R] [Component C R]

namespace Deployment

def answers (deployment : Deployment C R) : Answers C R :=
  fun call => (reply call { deployment with cache := .empty, rules := [] }).1

structure SameStores (deployment other : Deployment C R) : Prop where
  tables : other.tables = deployment.tables
  index : other.index = deployment.index
  fixedSearch : other.fixedSearch = deployment.fixedSearch
  fixedRetrieval : other.fixedRetrieval = deployment.fixedRetrieval

variable {deployment other : Deployment C R}

omit [Score R] [Component C R] in
theorem SameStores.trans {later : Deployment C R} (first : deployment.SameStores other)
    (second : other.SameStores later) : deployment.SameStores later where
  tables := second.tables.trans first.tables
  index := second.index.trans first.index
  fixedSearch := second.fixedSearch.trans first.fixedSearch
  fixedRetrieval := second.fixedRetrieval.trans first.fixedRetrieval

theorem isCold_answers (deployment : Deployment C R) : deployment.answers.IsCold := fun _ => rfl

def outcome {α : Type} : Except Breakdown α → Outcome α
  | .ok value => .answer value
  | .error cause => .broken cause

omit [Score R] [Component C R] in
theorem guarded_of_rules {α : Type} (operation : String)
    (act : Deployment C R → Except Breakdown α × Deployment C R) (quiet : deployment.rules = []) :
    guarded operation act deployment = (outcome (act deployment).1, (act deployment).2) := by
  obtain ⟨tables, cache, index, fixedSearch, fixedRetrieval, limits, rules, metrics⟩ := deployment
  cases quiet
  unfold guarded
  dsimp only [trigger]
  split <;> rename_i ended <;> rw [ended] <;> rfl

theorem answers_query (deployment : Deployment C R) (query : Query R) :
    deployment.answers (.query query) =
      outcome ((query.run deployment.tables).map Prod.fst) := by
  refine (congrArg Prod.fst (guarded_of_rules _ _ rfl)).trans ?_
  cases query.run deployment.tables <;> rfl

theorem answers_search (deployment : Deployment C R) (query : Embedding C) (limit : Int)
    (exclusion : Exclusion) :
    deployment.answers (.search query limit exclusion) =
      outcome (match deployment.fixedSearch with
        | some hits => .ok hits
        | none => deployment.index.search query limit exclusion) :=
  congrArg Prod.fst (guarded_of_rules _ _ rfl)

theorem answers_retrieve (deployment : Deployment C R) (ids : List Text) :
    deployment.answers (.retrieve ids) =
      .answer (deployment.fixedRetrieval.getD (deployment.index.retrieve ids)) := by
  refine (congrArg Prod.fst (guarded_of_rules _ _ rfl)).trans ?_
  cases deployment.fixedRetrieval <;> rfl

theorem answers_index (deployment : Deployment C R) (id author : Text) (vector : Embedding C) :
    deployment.answers (.index id author vector) =
      outcome ((deployment.index.add id author vector).map fun _ => ()) := by
  refine (congrArg Prod.fst (guarded_of_rules _ _ rfl)).trans ?_
  cases deployment.index.add id author vector <;> rfl

/-- The answers do not depend on the cache, the limits and the counts so far. -/
theorem answers_congr (same : deployment.SameStores other) : other.answers = deployment.answers := by
  funext call
  cases call with
  | query query => rw [answers_query, answers_query, same.tables]
  | search query limit exclusion =>
    rw [answers_search, answers_search, same.fixedSearch, same.index]
  | retrieve ids => rw [answers_retrieve, answers_retrieve, same.fixedRetrieval, same.index]
  | index id author vector => rw [answers_index, answers_index, same.index]
  | openIndex | read | write | delete | scan | count => rfl

structure IsCoherent (service : Service R) (doomed : CacheKey → Prop)
    (deployment : Deployment C R) : Prop where
  quiet : deployment.rules = []
  on : deployment.cache.isOn = true
  dated : deployment.tables.IsDated
  cache : deployment.cache.Holds service.root fun key value =>
    service.IsRight deployment.answers key value ∨ doomed key

variable {service : Service R} {doomed : CacheKey → Prop}

theorem IsCoherent.goesOn (coherent : deployment.IsCoherent service doomed)
    (same : deployment.SameStores other) (quiet : other.rules = []) (on : other.cache.isOn = true)
    (holds : other.cache.Holds service.root fun key value =>
      service.IsRight deployment.answers key value ∨ doomed key) :
    other.IsCoherent service doomed where
  quiet := quiet
  on := on
  dated := same.tables ▸ coherent.dated
  cache := answers_congr same ▸ holds

theorem IsCoherent.mono {other : CacheKey → Prop} (coherent : deployment.IsCoherent service doomed)
    (implies : ∀ key, doomed key → other key) : deployment.IsCoherent service other where
  quiet := coherent.quiet
  on := coherent.on
  dated := coherent.dated
  cache := CacheStore.holds_mono coherent.cache fun key _ => .imp_right (implies key)

/-- While nothing fails, a query is answered by the tables, and one that reads changes nothing. -/
theorem reply_query {query : Query R} (reading : query.isReading = true)
    (quiet : deployment.rules = []) :
    reply (.query query) deployment = (deployment.answers (.query query), deployment) := by
  rw [reply, guarded_of_rules _ _ quiet, answers_query]
  cases ran : query.run deployment.tables with
  | error cause => rfl
  | ok pair =>
    obtain ⟨answer, after⟩ := pair
    have same := Query.tables_of_reading reading ran
    subst same
    rfl

theorem reply_search (query : Embedding C) (limit : Int) (exclusion : Exclusion)
    (quiet : deployment.rules = []) :
    reply (.search query limit exclusion) deployment =
      (deployment.answers (.search query limit exclusion),
        { deployment with limits := limit :: deployment.limits }) := by
  rw [reply, guarded_of_rules _ _ quiet, answers_search]
  rfl

theorem reply_retrieve (ids : List Text) (quiet : deployment.rules = []) :
    reply (.retrieve ids) deployment = (deployment.answers (.retrieve ids), deployment) := by
  rw [reply, guarded_of_rules _ _ quiet, answers_retrieve]
  cases deployment.fixedRetrieval <;> rfl

/-- The stores are those at the start, nothing fails, and every cached value is good. -/
structure Serves (terms : Terms C R) (start deployment : Deployment C R) : Prop where
  same : start.SameStores deployment
  quiet : deployment.rules = []
  on : deployment.cache.isOn = true
  cache : deployment.cache.Holds terms.root terms.good

/-- A call that may be made is replied to by the stores at the start. If that is a reply that has
to be coped with, so it goes on. -/
theorem Serves.goesOn {terms : Terms C R} {start : Deployment C R}
    (serves : Serves terms start deployment)
    (reading : ∀ query, terms.asks query → query.isReading = true) {call : Call C R}
    (allowed : terms.contract.allows call) (replies : terms.replies call (start.answers call)) :
    terms.contract.admits call (reply call deployment).1 ∧
      Serves terms start (reply call deployment).2 := by
  have quiet := serves.quiet
  rw [← answers_congr serves.same] at replies
  -- Reading calls leave all stores alone, a search notes its limit, and a write changes the cache
  -- only.
  cases call with
  | query query =>
    rw [reply_query (reading query allowed) quiet]
    exact ⟨replies, serves⟩
  | search query limit exclusion =>
    rw [reply_search query limit exclusion quiet]
    exact ⟨replies, serves.same.trans ⟨rfl, rfl, rfl, rfl⟩, quiet, serves.on, serves.cache⟩
  | retrieve ids =>
    rw [reply_retrieve ids quiet]
    exact ⟨replies, serves⟩
  | index | openIndex | delete | scan => exact allowed.elim
  | read key =>
    exact ⟨fun entry found name proper encoded =>
      CacheStore.good_of_read serves.cache proper encoded found, serves⟩
  | write key value lifetime =>
    obtain ⟨name, proper, rfl, good⟩ := allowed
    exact ⟨replies, serves.same.trans ⟨rfl, rfl, rfl, rfl⟩, quiet,
      (CacheStore.isOn_write ..).trans serves.on,
      CacheStore.holds_write serves.cache proper good lifetime⟩
  | count count =>
    exact ⟨replies, serves.same.trans ⟨rfl, rfl, rfl, rfl⟩, quiet, serves.on, serves.cache⟩

/-- Stores that never fail keep the contract of requests on a coherent cache. -/
theorem keptBy_reply {start : Deployment C R} {asks : Query R → Prop}
    (reading : ∀ query, asks query → query.isReading = true) :
    (coherenceTerms service start.answers asks doomed).contract.KeptBy reply
      fun deployment => start.SameStores deployment ∧ deployment.IsCoherent service doomed := by
  rintro call deployment ⟨same, coherent⟩ allowed
  have holds := coherent.cache
  rw [answers_congr same] at holds
  have serves : Serves (coherenceTerms service start.answers asks doomed) start deployment :=
    ⟨same, coherent.quiet, coherent.on, holds⟩
  have replies : (coherenceTerms service start.answers asks doomed).replies call
      (start.answers call) := by
    cases call <;> first | rfl | trivial
  obtain ⟨admitted, after⟩ := serves.goesOn reading allowed replies
  refine ⟨admitted, after.same, after.quiet, after.on, ?_, ?_⟩
  · rw [after.same.tables, ← same.tables]
    exact coherent.dated
  · rw [answers_congr after.same]
    exact after.cache

theorem readsMarks (dated : deployment.tables.IsDated) : Service.ReadsMarks deployment.answers := by
  intro identity since marks answered
  refine SeenMap.ofJson_toJson ?_
  rw [answers_query] at answered
  unfold Query.run at answered
  split at answered
  · cases answered
  · cases answered
    exact Tables.seenSince_isStored dated identity since

theorem admits_answers (deployment : Deployment C R) (root : Text) (call : Call C R)
    (allowed : (exposureTerms (C := C) root deployment.tables).contract.allows call) :
    (exposureTerms root deployment.tables).contract.admits call (deployment.answers call) := by
  cases call with
  | query query =>
    intro answer answered
    rw [answers_query] at answered
    cases ran : query.run deployment.tables with
    | ok pair =>
      rw [ran] at answered
      cases answered
      exact ⟨pair.2, rfl⟩
    | error cause =>
      rw [ran] at answered
      cases answered
  | read key => exact fun entry found => by cases found
  | search | retrieve | index | openIndex | write | delete | scan | count => trivial

omit [Component C R] in
theorem moments_of_dates {items : List (FeedItem R)} (dated : deployment.tables.IsDated)
    (dates : ∀ item ∈ items, deployment.tables.Dates item) :
    Schema.list FeedItem.read (itemsJson items) = .valid items := by
  refine itemsJson_of_moments fun item member => ?_
  obtain ⟨row, inside, moment⟩ := dates item member
  rw [moment]
  exact ItemMoment.read_text (dated.posts row inside)

section

variable {answers : Answers C R} (dated : deployment.tables.IsDated)
variable (admitted : ∀ call,
  (exposureTerms (C := C) service.root deployment.tables).contract.allows call →
    (exposureTerms service.root deployment.tables).contract.admits call (answers call))

include dated admitted

theorem readsPages_of_admitted : service.ReadsPages answers := by
  intro query response complete computed
  have yields : (service.computePage (C := C) query).Yields
      (exposureTerms service.root deployment.tables).contract _ := Service.computePage_yields
  have dates := Program.eval_of_meets yields admitted _ computed
  rw [FeedResponse.read_toJson,
    moments_of_dates dated fun item member => (dates item member).2]
  rfl

theorem readsSimilar_of_admitted : service.ReadsSimilar answers := by
  intro query response computed
  have yields : (service.computeSimilar (C := C) query).Yields
      (exposureTerms service.root deployment.tables).contract _ := Service.computeSimilar_yields
  have dates := Program.eval_of_meets yields admitted _ computed response rfl
  rw [SimilarResponse.read_toJson,
    moments_of_dates dated fun item member => (dates item member).2]
  rfl

end

theorem readsPages (dated : deployment.tables.IsDated) :
    service.ReadsPages deployment.answers :=
  readsPages_of_admitted dated (admits_answers deployment service.root)

theorem readsSimilar (dated : deployment.tables.IsDated) :
    service.ReadsSimilar deployment.answers :=
  readsSimilar_of_admitted dated (admits_answers deployment service.root)

end Deployment

def Request.LooksUp : Request R → CacheKey → Prop
  | .feed request, key => key.Feeds request.identity
  | .similar request, key => key.Relates request.requester

structure CacheKey.Spreads (doomed : CacheKey → Prop) : Prop where
  pages : ∀ (reader : Text) (key : CacheKey), key.Feeds reader → doomed key →
    ∀ fingerprint size cursor, doomed (.page reader fingerprint size cursor)
  similar : ∀ (requester : Text) (key : CacheKey), key.Relates requester → doomed key →
    ∀ post limit, doomed (.similar post requester limit)

namespace Service

variable {service : Service R} {answers : Answers C R} {doomed : CacheKey → Prop}

def asksFor (service : Service R) : Request R → Query R → Prop
  | .feed request => service.asksForFeed request.identity
  | .similar request => asksForSimilar request.requester

omit [Score R] in
theorem isReading_of_asksFor {request : Request R} {query : Query R}
    (asked : service.asksFor request query) : query.isReading = true := by
  cases request <;> cases query <;> first | rfl | exact asked.elim

variable [FaithfulText R]

theorem answer_tracks (request : Request R) (cold : answers.IsCold) (dated : ReadsMarks answers)
    (pages : service.ReadsPages answers) (similar : service.ReadsSimilar answers)
    (spreads : CacheKey.Spreads doomed) :
    (service.answer request : Task C R _).Tracks
      (coherenceTerms service answers (service.asksFor request) doomed).contract answers
      (∃ key, request.LooksUp key ∧ doomed key) := by
  cases request with
  | feed request =>
    refine Task.tracks_bind (rankFeed_tracks cold dated pages
      (fun key reads gone => ⟨key, reads, gone⟩) ?_) fun _ _ => Task.tracks_pure _
    rintro ⟨key, reads, gone⟩
    exact spreads.pages _ key reads gone
  | similar request =>
    refine Task.tracks_bind (similarPosts_tracks cold similar
      (fun key reads gone => ⟨key, reads, gone⟩) ?_) fun _ _ => Task.tracks_pure _
    rintro ⟨key, reads, gone⟩
    exact spreads.similar _ key reads gone

/-- A request on a coherent deployment ends as it would without a cache, unless a doomed value may
be met, and leaves the deployment coherent. -/
theorem perform_answer {deployment : Deployment C R} (request : Request R)
    (spreads : CacheKey.Spreads doomed) (coherent : deployment.IsCoherent service doomed) :
    ((∃ key, request.LooksUp key ∧ doomed key) ∨
        (deployment.perform (service.answer request)).1 =
          (service.answer request).eval deployment.answers) ∧
      deployment.SameStores (deployment.perform (service.answer request)).2 ∧
      (deployment.perform (service.answer request)).2.IsCoherent service doomed :=
  Program.meets_run (Deployment.keptBy_reply fun _ => isReading_of_asksFor)
    (answer_tracks request deployment.isCold_answers (Deployment.readsMarks coherent.dated)
      (Deployment.readsPages coherent.dated) (Deployment.readsSimilar coherent.dated) spreads)
    deployment ⟨⟨rfl, rfl, rfl, rfl⟩, coherent⟩

end Service

end PersonalFeed
