import PersonalFeed.Proofs.Entries.Requests

/-!
Entries that can do no harm. Whatever texts are cached under the keys of a request, as long as each
is no document, the document of nothing at all or one in the shape of its kind, a request in order
is answered, and as it would be without the first two.
-/

set_option autoImplicit false

namespace PersonalFeed

open Scalar Extended

variable {a : Arithmetic} {service : Service (Extended a .double)}
variable {deployment : Deployment (Extended a .single) (Extended a .double)}

/-- A cached list in the shape of a vector can be read, as a vector or as none. -/
theorem Json.readsInterest_of_hasShape {value : Json (Extended a .double)}
    (shaped : value.HasShape (Extended a .single) .interestVector) :
    value.ReadsInterest (Extended a .single) := by
  cases shaped with
  | @interestVector components legible =>
    by_cases vector : FormVector components
    · exact checkVector_of_interest fun component member =>
        isComponent_of_legible legible vector member
    · exact ⟨none, readInterest_of_legible legible vector, fun _ same => by cases same⟩

/-- A feed request that is in order, by a reader whose weights can be read. The weights that it
comes to do not add up to infinity. -/
structure FeedRequest.IsInOrder (service : Service (Extended a .double))
    (deployment : Deployment (Extended a .single) (Extended a .double))
    (request : FeedRequest (Extended a .double)) : Prop where
  checked : ∃ query, Service.checkFeed service.config request = .ok query
  whole : request.identity.isWhole = true
  once : (request.overrides.map Prod.fst).Nodup
  legible : ∃ own, service.weightsOf deployment.tables request.identity = .ok own
  weighed : ∃ weights, Weights.LaidOver request.overrides
    (service.weightsUnder (deployment.profileFor service.root request.identity)) weights ∧
      weights.IsModerate service.config.caps

def Request.IsInOrder (service : Service (Extended a .double))
    (deployment : Deployment (Extended a .single) (Extended a .double)) :
    Request (Extended a .double) → Prop
  | .feed request => request.IsInOrder service deployment
  | .similar request => (∃ query, Service.checkSimilar service.config request = .ok query) ∧
      request.requester.isWhole = true

namespace Service

open Deployment

variable (ready : service.IsSound) (sound : deployment.IsWorking)
variable (steady : isFinite service.config.ranking.decayRate = true)

include ready steady

theorem ranksAll_of_isModerate {weights : Weights (Extended a .double)} (proper : weights.IsProper)
    (moderate : weights.IsModerate service.config.caps) :
    service.RanksAll (C := Extended a .single) weights := by
  intro candidates made
  obtain ⟨ranked, ordered, -⟩ := ranks_of_isBounded proper moderate fun peak highest c member => by
    obtain ⟨reader, found, post, v, ended⟩ := made c member
    exact isBounded_of_candidateOf ready.accepted highest steady (upTo_cosine _ _) ended
  exact ⟨ranked, ordered⟩

include sound

theorem answer_settles {request : Request (Extended a .double)}
    (inOrder : request.IsInOrder service deployment)
    (shaped : ∀ key, request.LooksUp key →
      deployment.cache.IsShapedAt (Extended a .single) service.root key) :
    ∃ kinds, deployment.Settles service.root kinds (service.answer request) [] fun _ => True := by
  cases request with
  | feed request =>
    obtain ⟨⟨query, checked⟩, whole, once, legible, weights, laid, moderate⟩ := inOrder
    have same := identity_of_checkFeed checked
    have overrides := overrides_of_checkFeed checked
    have valid := weightsUnder_isValid ready.accepted
      (deployment.profileFor service.root request.identity)
    have accepted := (Weights.withOverrides_ok_iff once valid).2 laid
    have ranks := ranksAll_of_isModerate ready steady
      (Weights.isProper_of_withOverrides valid.toIsProper accepted) moderate
    -- The hypotheses are about the request as sent, the look-ups about the query that it checked
    -- to.
    simp only [← same, ← overrides] at whole once legible accepted
    refine ⟨_, settles_bind (rankFeed_settles ready sound
      (fun _ => Json.readsInterest_of_hasShape) whole (fun key feeds => ?_) legible ranks accepted
        checked once) fun _ _ => settles_pure trivial⟩
    rw [same] at feeds
    exact shaped key feeds
  | similar request =>
    obtain ⟨⟨query, checked⟩, whole⟩ := inOrder
    have same := (checkSimilar_ok checked).1
    refine ⟨_, settles_bind (similarPosts_settles sound ready checked (same ▸ whole)
      fun key relates => ?_) fun _ _ => settles_pure trivial⟩
    rw [same] at relates
    exact shaped key relates

/-- What is cached fails no request as long as it is in the shape of its kind where it is a document
other than that of nothing at all: a request in order is answered, and as it would be without the
entries of which nothing is read. Where the other entries are right it is answered as from the
stores alone. -/
theorem answer_of_shaped {request : Request (Extended a .double)}
    (inOrder : request.IsInOrder service deployment)
    (shaped : ∀ key, request.LooksUp key →
      deployment.cache.IsShapedAt (Extended a .single) service.root key) :
    let rest := deployment.dropped deployment.cache.isVoid
    ∃ answer, (deployment.perform (service.answer request)).1 = .ok answer ∧
      (rest.perform (service.answer request)).1 = .ok answer ∧
      ((rest.IsCoherent service fun _ => False) →
        (service.answer request).eval deployment.answers = .ok answer) := by
  intro rest
  obtain ⟨kinds, answer, -, ends⟩ := answer_settles ready sound steady inOrder shaped
  obtain ⟨later, ended, -⟩ := ends deployment (.refl sound.quiet)
  obtain ⟨other, ended', -⟩ := ends rest (agrees_dropped sound.quiet)
  refine ⟨answer, congrArg Prod.fst ended, congrArg Prod.fst ended', fun coherent => ?_⟩
  have cold := (perform_coherent coherent request).1
  rw [ended'] at cold
  exact cold.symm

end Service

def onePostCached : Deployment (Extended machine .single) (Extended machine .double) :=
  { onePost with cache := ⟨[("discovery:follows:ann", .text "\x7b"),
      ("discovery:seen:ann", .document (.object []))], [], true⟩ }

theorem onePostCached_isShapedAt (key : CacheKey) :
    onePostCached.cache.IsShapedAt (Extended machine .single) "discovery" key := by
  intro written encoded
  by_cases follows : written = "discovery:follows:ann"
  · subst follows
    exact ⟨none, by rfl, fun _ same => by cases same⟩
  · by_cases seen : written = "discovery:seen:ann"
    · subst seen
      have same : key.text "discovery" = (CacheKey.seen "ann").text "discovery" :=
        (Text.ofString_of_toString? encoded).symm.trans (by decide)
      refine ⟨some (.object []), rfl, fun _ same => ?_⟩
      cases same
      rw [CacheKey.artifact_of_text same]
      exact .seen fun _ member => absurd member List.not_mem_nil
    · have absent : CacheStore.entry? onePostCached.cache written = none := by
        simp [onePostCached, CacheStore.entry?, Ne.symm follows, Ne.symm seen]
      have on : onePostCached.cache.isOn = true := rfl
      refine ⟨none, ?_, fun _ same => by cases same⟩
      rw [CacheStore.reading, CacheStore.read, if_pos on, absent]
      rfl

theorem onePostCached_isWorking : onePostCached.IsWorking where
  tables := onePost_isSound.tables
  distinct := onePost_isSound.distinct
  written := onePost_isSound.written
  asked := rfl
  quiet := rfl
  retrieved := rfl
  defined := by
    intro point member
    rw [List.mem_singleton.1 member]
    refine if_neg fun undefined => ?_
    rw [Array.any_eq_true'] at undefined
    obtain ⟨c, inside, undefined⟩ := undefined
    rw [Array.eq_of_mem_replicate inside] at undefined
    exact absurd undefined (by decide +kernel)

theorem onePostCached_isCoherent :
    (onePostCached.dropped onePostCached.cache.isVoid).IsCoherent (.standard "discovery" ⟨0, 0⟩)
      fun _ => False where
  quiet := rfl
  on := rfl
  dated := onePost_isSound.tables.dated
  cache := by
    rintro entry member
    obtain ⟨inside, stays⟩ := List.mem_filter.1 member
    rcases List.mem_pair.1 inside with rfl | rfl
    · cases stays
    · exact ⟨.seen "ann", SeenMap.toJson [], trivial, by decide, rfl, .inl (.seen rfl rfl)⟩

/-- The reader gets the page that the stores alone give. -/
theorem answer_of_shaped_of_onePost :
    let service : Service (Extended machine .double) := .standard "discovery" ⟨0, 0⟩
    let request : Request (Extended machine .double) := .feed ⟨"ann", .int 1, .null, []⟩
    onePostCached.cache.isVoid "discovery:follows:ann" = true ∧
      ∃ answer, (onePostCached.perform (service.answer request)).1 = .ok answer ∧
        (service.answer request).eval onePostCached.answers = .ok answer := by
  intro service request
  have inOrder : request.IsInOrder service onePostCached := by
    refine ⟨⟨_, rfl⟩, by decide, .nil, ⟨_, rfl⟩, .default, ?_, by decide +kernel, by decide +kernel⟩
    exact (Weights.laidOver_nil_iff
      (Config.isValid_of_accepted Service.machine_isSound.accepted)).2 rfl
  obtain ⟨answer, ended, -, cold⟩ := Service.answer_of_shaped Service.machine_isSound
    onePostCached_isWorking (by decide +kernel) inOrder fun key _ => onePostCached_isShapedAt key
  exact ⟨by rfl, answer, ended, cold onePostCached_isCoherent⟩

end PersonalFeed
