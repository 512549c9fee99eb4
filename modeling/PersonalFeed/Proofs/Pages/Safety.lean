import PersonalFeed.Proofs.Pages.Precedence
import PersonalFeed.Proofs.Ranking.Bounds

/-!
Feeds in extended arithmetic. On finite rows a configuration that is accepted makes no request fail
and no final score infinite, as long as its numbers do not add up to infinity.
-/

set_option autoImplicit false

namespace PersonalFeed

open Scalar Extended

variable {a : Arithmetic}

structure Deployment.IsFinite {C R : Type} [Score R] [Component C R] (deployment : Deployment C R) :
    Prop where
  interests : ∀ user ∈ deployment.tables.users, ∀ components, user.interest = some components →
    ∀ component ∈ components, ∀ x, component.toReal = .ok x →
      isFinite (Component.narrow x : C) = true
  directions : ∀ point ∈ deployment.index.points, point.direction.IsFinite

section

variable {config : Config (Extended a .double)} (accepted : config.IsAccepted) {peak : ℚ}
variable (highest : config.caps.peak.value? = some peak)

include accepted highest

theorem upTo_engagement {C : Type} (post : Post C) : UpTo peak (engagement config.caps post) := by
  have caps := Config.keeps_of_accepted accepted .engagementCaps (by decide)
  have shares := Config.keeps_of_accepted accepted .engagementWeights (by decide)
  simp only [Config.breaks, Bool.or_eq_false_iff, decide_eq_false_iff_not, Int.not_le] at caps shares
  obtain ⟨save, comment, saves, comments, rfl⟩ := values_of_add highest
  have inRange := (abs_le.1 (inRange_of_value highest)).2
  exact upTo_add (upTo_mul (upTo_cappedShare _ caps.1) saves (nonneg_of_value saves shares.1))
    (upTo_mul (upTo_cappedShare _ caps.2) comments (nonneg_of_value comments shares.2)) inRange

theorem isBounded_of_candidateOf (steady : isFinite config.ranking.decayRate = true)
    {now : Timestamp} {reader : ReaderContext (Extended a .single) (Extended a .double)}
    {found : List (Neighbour (Extended a .single) (Extended a .double))}
    {post : Post (Extended a .single)} {v : Embedding (Extended a .single)}
    (near : UpTo 1 (larger zero (Component.widen (reader.interest.cosine v))))
    {c : Candidate (Extended a .single) (Extended a .double)}
    (made : candidateOf config now reader found post (some v) = .ok c) : c.IsBounded peak := by
  obtain ⟨days, _, made⟩ := ok_of_bind made
  obtain ⟨temporal, recent, made⟩ := ok_of_bind made
  obtain ⟨privacy, kept, made⟩ := ok_of_bind made
  have rate := Config.keeps_of_accepted accepted .decayRate (by decide)
  have positive : lt zero config.ranking.decayRate = true := by simpa [Config.breaks] using rate
  obtain ⟨r, steady⟩ := isFinite_iff.1 steady
  rw [recency?, rateOf_real positive] at recent
  cases recent
  cases made
  rw [lt_of_value value?_zero steady] at positive
  exact ⟨near, upTo_engagement accepted highest post,
    upTo_decay (isNaN_hoursUntil _ _) steady (of_decide_eq_true positive), upTo_privacy kept,
    upTo_novelty _ _, upTo_seenMultiplier _⟩

end

namespace Service

variable {service : Service (Extended a .double)}
variable {deployment : Deployment (Extended a .single) (Extended a .double)}
variable {identity : Text} {size : Nat}

theorem isBounded_of_select (ready : service.IsSound) (sound : deployment.IsSound)
    (finite : deployment.IsFinite) (steady : isFinite service.config.ranking.decayRate = true)
    {peak : ℚ} (highest : service.config.caps.peak.value? = some peak)
    {selection : Selection (Extended a .single) (Extended a .double)}
    (selected : service.select identity deployment size = .ok selection) :
    ∀ c ∈ selection.candidates, c.IsBounded peak := by
  intro c member
  obtain ⟨user, inside, components, interest, _, _, _, _, point, there, given, read, -, made⟩ :=
    candidate_of_select selected member
  have short : interest.IsFinite := by
    intro x member
    obtain ⟨component, there, number, isNumber, rfl⟩ :=
      mem_of_readInterest (sound.tables.interests user inside components given) read x member
    exact finite.interests user inside components given component there number isNumber
  refine isBounded_of_candidateOf ready.accepted highest steady (upTo_larger_zero ?_) made
  exact within_convert (Embedding.within_cosine short (finite.directions point there))

/-- Candidates whose signals are cut off can be ranked, and their final scores are finite. -/
theorem ranks_of_isBounded {weights : Weights (Extended a .double)} (proper : weights.IsProper)
    (moderate : weights.IsModerate service.config.caps)
    {candidates : List (Candidate (Extended a .single) (Extended a .double))}
    (bounded : ∀ peak, service.config.caps.peak.value? = some peak →
      ∀ c ∈ candidates, c.IsBounded peak) :
    ∃ ranked, rank weights service.config.ranking.diversityThreshold candidates = .ok ranked ∧
      ∀ s ∈ ranked, isFinite s.final = true := by
  -- The weights are moderate only if the highest engagement is a number.
  obtain ⟨peak, _, highest, -⟩ := Candidate.values_of_isModerate moderate
  have valued : ∀ c ∈ candidates, ∀ hits, ∃ q, (c.finalWith weights hits).value? = some q := by
    intro c member hits
    obtain ⟨q, found, -⟩ :=
      Candidate.upTo_finalWith proper moderate highest (bounded peak highest c member) hits
    exact ⟨q, found⟩
  have finals : ∀ c ∈ candidates, ∀ hits, isFinite (c.finalWith weights hits) = true :=
    fun c member hits => isFinite_iff.2 (valued c member hits)
  obtain ⟨ranked, ordered⟩ : ∃ ranked,
      rank weights service.config.ranking.diversityThreshold candidates = .ok ranked := by
    refine rank_isOk SignRules.le_refl (fun c member hits => ?_) fun c member hits => ?_
    · rw [isBottom, finals c member hits]
      rfl
    · obtain ⟨q, found⟩ := valued c member hits
      exact not_isNaN found
  exact ⟨ranked, ordered, final_of_rank (P := fun x => isFinite x = true) finals ordered⟩

theorem ranks_finite (ready : service.IsSound) (sound : deployment.IsSound)
    (finite : deployment.IsFinite) (steady : isFinite service.config.ranking.decayRate = true)
    {weights : Weights (Extended a .double)} (proper : weights.IsProper)
    (moderate : weights.IsModerate service.config.caps)
    {selection : Selection (Extended a .single) (Extended a .double)}
    (selected : service.select identity deployment size = .ok selection) :
    ∃ ranked, rank weights service.config.ranking.diversityThreshold selection.candidates =
        .ok ranked ∧ ∀ s ∈ ranked, isFinite s.final = true := by
  exact ranks_of_isBounded proper moderate fun peak highest =>
    isBounded_of_select ready sound finite steady highest selected

theorem isFinite_of_pageOf {query : FeedQuery (Extended a .double)} {authors : List Author}
    {ranked : List (Scored (Extended a .single) (Extended a .double))}
    (finals : ∀ s ∈ ranked, isFinite s.final = true) :
    ∀ item ∈ (service.pageOf query authors ranked).items, isFinite item.scores.final = true := by
  intro item member
  obtain ⟨s, inside, rfl⟩ := List.mem_map.1 member
  exact isFinite_roundPlaces (finals s (Page.mem_slice inside)) 6

/-- On finite rows a request in order is refused for overrides that do not fit or ends with a page,
and the final scores of the ranking and of the page are finite. The configuration is accepted, its
rate is finite, and the weights that the request comes to do not add up to infinity. -/
theorem feed_isFinite (ready : service.IsSound) (sound : deployment.IsSound)
    (finite : deployment.IsFinite) (coherent : deployment.IsCoherent service fun _ => False)
    {request : FeedRequest (Extended a .double)} {query : FeedQuery (Extended a .double)}
    (plain : checkFeed service.config { request with overrides := [] } = .ok query)
    (whole : request.identity.isWhole = true) (once : (request.overrides.map Prod.fst).Nodup)
    (legible : ∃ own, service.weightsOf deployment.tables request.identity = .ok own)
    (steady : isFinite service.config.ranking.decayRate = true)
    (moderate : ∀ weights, Weights.LaidOver request.overrides
        (service.baseWeights deployment.tables request.identity) weights →
      weights.IsModerate service.config.caps) :
    (((¬ ∃ weights, Weights.LaidOver request.overrides service.config.weights weights) ∨
          ¬ ∃ weights, Weights.LaidOver request.overrides
            (service.baseWeights deployment.tables request.identity) weights) ∧
        ∃ flaw, (deployment.perform (service.answer (.feed request))).1 =
          .error (.fault (.refused (.override flaw)))) ∨
      ∃ weights selection ranked,
        Weights.LaidOver request.overrides
          (service.baseWeights deployment.tables request.identity) weights ∧
        service.select request.identity deployment query.pageSize = .ok selection ∧
        rank weights service.config.ranking.diversityThreshold selection.candidates = .ok ranked ∧
        (∀ s ∈ ranked, isFinite s.final = true) ∧
        let response := service.pageOf { query with overrides := request.overrides }
          selection.authors ranked
        (deployment.perform (service.answer (.feed request))).1 = .ok (.feed response) ∧
          ∀ item ∈ response.items, isFinite item.scores.final = true := by
  rw [(perform_coherent coherent (.feed request)).1]
  -- Overrides are tried on the configured weights and again on those of the reader.
  by_cases fits : ∃ weights, Weights.LaidOver request.overrides service.config.weights weights
  · by_cases fitsReader : ∃ weights, Weights.LaidOver request.overrides
        (service.baseWeights deployment.tables request.identity) weights
    · obtain ⟨weights, laid⟩ := fitsReader
      have valid := baseWeights_isValid ready.accepted deployment.tables request.identity
      have proper := Weights.isProper_of_withOverrides valid.toIsProper
        ((Weights.withOverrides_ok_iff once valid).2 laid)
      obtain ⟨selection, selected, ended⟩ :=
        eval_answer_ranks ready plain whole once fits sound legible laid
      obtain ⟨ranked, ordered, finals⟩ :=
        ranks_finite ready sound finite steady proper (moderate weights laid) selected
      rw [ordered] at ended
      exact .inr ⟨weights, selection, ranked, laid, selected, ordered, finals, ended,
        isFinite_of_pageOf finals⟩
    · exact .inl ⟨.inr fitsReader,
        eval_answer_of_misfit ready plain whole once fits sound legible fitsReader⟩
  · obtain ⟨flaw, run⟩ :=
      run_answer_of_misfit (C := Extended a .single) ready plain once fits
    refine .inl ⟨.inl fits, flaw, ?_⟩
    rw [Task.eval, run]
    rfl

end Service

theorem toReal_one : (Json.int 1 : Json (Extended a .double)).toReal = .ok one :=
  if_pos (isFinite_iff.2 ⟨1, value?_one⟩)

theorem value?_narrow_one :
    (Component.narrow (one : Extended a .double) : Extended a .single).value? = some 1 := by
  obtain ⟨_, unit⟩ := one_finite (a := a) (w := .double)
  rw [unit]
  exact value?_ofRat (inRange_of_le (by norm_num) (by norm_num))

def onePost : Deployment (Extended machine .single) (Extended machine .double) where
  tables :=
    { users := [⟨"ann", "ann", none, none, false, some (List.replicate 1024 (.int 1)), .null, none⟩,
        ⟨"bob", "bob", none, none, false, none, .null, none⟩]
      follows := []
      blocks := []
      posts := [⟨"0f0e0d0c-0b0a-4908-8706-050403020100", "bob", some "first", ⟨0, 0⟩, 7, 0, [], none,
          none, none, none⟩]
      saves := []
      seen := [] }
  cache := .empty
  index := ⟨[⟨"0f0e0d0c-0b0a-4908-8706-050403020100", "bob", .replicate (ratio 1 32)⟩]⟩
  fixedSearch := none
  fixedRetrieval := none
  limits := []
  rules := []
  metrics := .empty

theorem onePost_isSound : onePost.IsSound where
  tables := {
    dated := by
      refine ⟨fun row member => ?_, fun mark member => absurd member List.not_mem_nil⟩
      rw [List.mem_singleton.1 member]
      exact ⟨rfl, by decide⟩
    stored := by
      intro row member
      rw [List.mem_singleton.1 member]
      rfl
    named := by
      intro row member
      rw [List.mem_singleton.1 member]
      exact ⟨by decide +kernel, by decide +kernel⟩
    embeddings := by
      intro row member entries stored
      cases List.mem_singleton.1 member
      cases stored
    interests := by
      intro user member components stored component inside
      rcases List.mem_pair.1 member with rfl | rfl
      · cases stored
        rw [List.eq_of_mem_replicate inside]
        exact ⟨one, toReal_one, not_isNaN value?_narrow_one⟩
      · cases stored
    muted := by
      intro user member keyword inside
      rcases List.mem_pair.1 member with rfl | rfl <;> cases inside }
  distinct := by decide
  written := by
    intro point member
    rw [List.mem_singleton.1 member]
    decide
  asked := rfl

theorem onePost_isFinite : onePost.IsFinite where
  interests := by
    intro user member components stored component inside x read
    rcases List.mem_pair.1 member with rfl | rfl
    · cases stored
      rw [List.eq_of_mem_replicate inside, toReal_one] at read
      rw [← Except.ok.inj read]
      exact isFinite_iff.2 ⟨1, value?_narrow_one⟩
    · cases stored
  directions := by
    intro point member x inside
    rw [List.mem_singleton.1 member] at inside
    rw [Array.eq_of_mem_replicate inside]
    decide +kernel

theorem Service.machine_isSound :
    (Service.standard "discovery" ⟨0, 0⟩ : Service (Extended machine .double)).IsSound := by
  refine isSound_of_defaults (fun signal => ?_) ⟨fun signal => ?_, ?_⟩ ?_
  · cases signal <;> decide +kernel
  · cases signal <;> decide +kernel
  · decide +kernel
  · decide +kernel

theorem feed_isFinite_of_onePost :
    let service : Service (Extended machine .double) := .standard "discovery" ⟨0, 0⟩
    let request : FeedRequest (Extended machine .double) := ⟨"ann", .int 1, .null, []⟩
    ∃ response, (onePost.perform (service.answer (.feed request))).1 = .ok (.feed response) ∧
      ∀ item ∈ response.items, isFinite item.scores.final = true := by
  intro service request
  have plain : Service.checkFeed service.config { request with overrides := [] } =
      .ok ⟨"ann", 1, none, []⟩ := rfl
  have given : service.weightsOf onePost.tables "ann" = .ok .default := rfl
  have base : service.baseWeights onePost.tables "ann" = .default :=
    (Service.weightsOf_eq given).symm
  have valid := Config.isValid_of_accepted Service.machine_isSound.accepted
  have laid {weights : Weights (Extended machine .double)} :
      Weights.LaidOver [] .default weights ↔ .default = weights :=
    Weights.laidOver_nil_iff valid
  have coherent : onePost.IsCoherent service fun _ => False :=
    ⟨rfl, rfl, onePost_isSound.tables.dated, CacheStore.holds_of_empty rfl⟩
  have moderate : ∀ weights, Weights.LaidOver request.overrides
      (service.baseWeights onePost.tables "ann") weights →
        weights.IsModerate service.config.caps := by
    intro weights other
    rw [base] at other
    rw [← laid.1 other]
    exact ⟨by decide +kernel, by decide +kernel⟩
  have ended := Service.feed_isFinite Service.machine_isSound onePost_isSound onePost_isFinite
    coherent plain (by decide) .nil ⟨_, given⟩ (by decide +kernel) moderate
  rw [base] at ended
  rcases ended with ⟨misfit | misfit, -⟩ | ⟨_, _, _, _, _, _, _, ended⟩
  · exact absurd ⟨_, laid.2 rfl⟩ misfit
  · exact absurd ⟨_, laid.2 rfl⟩ misfit
  · exact ⟨_, ended⟩

end PersonalFeed
