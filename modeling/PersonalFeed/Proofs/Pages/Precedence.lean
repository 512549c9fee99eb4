import PersonalFeed.Proofs.Pages.Walk
import PersonalFeed.Proofs.Weights.Layers

/-!
Whose weights rank a feed: those of the request over those of the profile over the configured ones.
Overrides are tried twice, on the configured weights before anything is asked and on those of the
reader after the loads, so a request is refused if either trial fails.
-/

set_option autoImplicit false

namespace PersonalFeed

variable {C R : Type}

namespace Service

variable [Score R]

/-- The weights below the overrides: those stored for a reader if they are well formed, or else the
configured ones. -/
def baseWeights (service : Service R) (tables : Tables R) (identity : Text) : Weights R :=
  (((tables.user? identity).map UserRow.profile).bind fun profile =>
    (Weights.ofStored profile.weights).toOption).getD service.config.weights

def weightsUnder (service : Service R) (profile : Option (Profile R)) : Weights R :=
  (profile.bind fun profile => (Weights.ofStored profile.weights).toOption).getD
    service.config.weights

variable {service : Service R} {tables : Tables R} {identity : Text}

theorem weightsUnder_isValid (accepted : service.config.IsAccepted)
    (profile : Option (Profile R)) : (service.weightsUnder profile).IsValid := by
  unfold weightsUnder
  cases profile with
  | none => exact Config.isValid_of_accepted accepted
  | some profile =>
    rw [Option.bind_some]
    cases stored : Weights.ofStored profile.weights with
    | error fault => exact Config.isValid_of_accepted accepted
    | ok weights => exact Weights.isValid_of_stored stored

theorem weights_of_absent {stored : Json R} (absent : stored.isAbsent = true) :
    (Weights.ofStored stored).toOption = none := by
  cases accepted : Weights.ofStored stored with
  | error fault => rfl
  | ok weights =>
    obtain ⟨fields, rfl, named, -⟩ := Weights.ofStored_ok_iff.1 accepted
    -- A record without fields lacks the names.
    have some := (named ("similarity" : Text)).2 ⟨.similarity, rfl⟩
    rw [List.isEmpty_iff.1 absent] at some
    cases some

/-- The stored weights of a reader count unless they are no record of weights. -/
theorem weightsOf_eq {own : Weights R} (given : service.weightsOf tables identity = .ok own) :
    own = service.baseWeights tables identity := by
  unfold weightsOf at given
  unfold baseWeights
  cases known : (tables.user? identity).map UserRow.profile with
  | none =>
    rw [known] at given
    exact (Except.ok.inj given).symm
  | some profile =>
    rw [known] at given
    rw [Option.bind_some]
    dsimp only at given
    -- An absent record gives no weights, a refused one is passed over, and any other failure is not
    -- a value.
    split at given
    · rw [weights_of_absent ‹_›]
      exact (Except.ok.inj given).symm
    · split at given
      · rename_i accepted
        rw [accepted]
        exact (Except.ok.inj given).symm
      · rename_i refused
        rw [refused]
        exact (Except.ok.inj given).symm
      · cases given

theorem baseWeights_isValid (accepted : service.config.IsAccepted) (tables : Tables R)
    (identity : Text) : (service.baseWeights tables identity).IsValid :=
  weightsUnder_isValid accepted ((tables.user? identity).map UserRow.profile)

/-- Overrides decide whether a request is in order that is in order without them. -/
theorem checkFeed_of_overrides {request : FeedRequest R} {query : FeedQuery R}
    (plain : checkFeed service.config { request with overrides := [] } = .ok query) :
    checkFeed service.config request =
      (service.config.weights.withOverrides request.overrides).map fun _ =>
        { query with overrides := request.overrides } := by
  have reads := checkFeed_ok_iff.1 plain
  have sized : pageSize service.config request.pageSize = .ok query.pageSize := reads.size
  have placed : PostId.checkCursor request.cursor = .ok query.cursor := reads.cursor
  unfold checkFeed
  rw [if_neg (Bool.eq_false_iff.1 reads.named), sized, placed, reads.identity]
  change (service.config.weights.withOverrides request.overrides >>= _) = _
  cases service.config.weights.withOverrides request.overrides <;> rfl

variable [Component C R] {deployment : Deployment C R}
variable {request : FeedRequest R} {query : FeedQuery R} {weights : Weights R}

/-- Overrides that misfit the configured weights are refused without a call. -/
theorem run_answer_of_misfit (ready : service.IsSound)
    (plain : checkFeed service.config { request with overrides := [] } = .ok query)
    (once : (request.overrides.map Prod.fst).Nodup)
    (misfit : ¬ ∃ weights, Weights.LaidOver request.overrides service.config.weights weights) :
    ∃ flaw, (service.answer (C := C) (.feed request)).run =
      .done (.error (.fault (.refused (.override flaw)))) := by
  obtain ⟨flaw, refused⟩ :=
    Weights.error_of_misfit once (Config.isValid_of_accepted ready.accepted) misfit
  refine ⟨flaw, ?_⟩
  have checked := checkFeed_of_overrides plain
  rw [refused] at checked
  simp only [answer, rankFeed, checked]
  rfl

section

variable [FaithfulText R] (ready : service.IsSound)
variable (plain : checkFeed service.config { request with overrides := [] } = .ok query)
variable (whole : request.identity.isWhole = true) (once : (request.overrides.map Prod.fst).Nodup)
variable (fits : ∃ weights, Weights.LaidOver request.overrides service.config.weights weights)

include ready plain whole once fits

/-- Overrides that fit the configured weights lead on to the computation of the page. -/
theorem eval_answer_of_fit :
    (service.answer (.feed request)).eval deployment.answers =
      ((service.computePage { query with overrides := request.overrides }).eval
        deployment.answers).map fun page => .feed page.1 := by
  obtain ⟨weights, laid⟩ := fits
  have accepted := (Weights.withOverrides_ok_iff once
    (Config.isValid_of_accepted ready.accepted)).2 laid
  have checked := checkFeed_of_overrides plain
  rw [accepted] at checked
  have same := identity_of_checkFeed checked
  exact eval_feed_of_page ready.root checked (same ▸ whole) once (isWhole_cursor checked)

variable (sound : deployment.IsSound)
variable (legible : ∃ own, service.weightsOf deployment.tables request.identity = .ok own)

include sound legible

/-- Overrides that misfit the weights of the reader are refused after the reader was loaded. -/
theorem eval_answer_of_misfit (misfit : ¬ ∃ weights, Weights.LaidOver request.overrides
      (service.baseWeights deployment.tables request.identity) weights) :
    ∃ flaw, (service.answer (.feed request)).eval deployment.answers =
      .error (.fault (.refused (.override flaw))) := by
  obtain ⟨own, given⟩ := legible
  obtain ⟨flaw, refused⟩ := Weights.error_of_misfit once
    (baseWeights_isValid ready.accepted deployment.tables request.identity) misfit
  rw [← weightsOf_eq given] at refused
  have same := identity_of_checkFeed plain
  dsimp only at same
  have computed : (service.computePage { query with overrides := request.overrides }).eval
      deployment.answers = .error (.fault (.refused (.override flaw))) := by
    apply eval_computePage_unweighed ready sound (same ▸ whole)
    rw [weightsFor, same, given]
    exact congrArg (Except.mapError _) refused
  refine ⟨flaw, ?_⟩
  rw [eval_answer_of_fit ready plain whole once fits, computed]
  rfl

/-- Overrides that fit the weights of the reader rank the page with what they come to. -/
theorem eval_answer_ranks [SignRules R] (laid : Weights.LaidOver request.overrides
      (service.baseWeights deployment.tables request.identity) weights) :
    ∃ selection, service.select request.identity deployment query.pageSize = .ok selection ∧
      (service.answer (.feed request)).eval deployment.answers =
        ((rank weights service.config.ranking.diversityThreshold selection.candidates).mapError
          fun cause => .fault (.broken cause)).map fun ranked =>
            .feed (service.pageOf { query with overrides := request.overrides }
              selection.authors ranked) := by
  obtain ⟨own, given⟩ := legible
  have accepted := (Weights.withOverrides_ok_iff once
    (baseWeights_isValid ready.accepted deployment.tables request.identity)).2 laid
  rw [← weightsOf_eq given] at accepted
  have same := identity_of_checkFeed plain
  dsimp only at same
  have positive : 0 < query.pageSize := size_of_checkFeed plain
  obtain ⟨selection, selected, -⟩ := select_isOk ready sound request.identity query.pageSize
  have computed : ((service.computePage { query with overrides := request.overrides }).eval
      deployment.answers).map Prod.fst =
        ((rank weights service.config.ranking.diversityThreshold selection.candidates).mapError
          fun cause => .fault (.broken cause)).map
            (service.pageOf { query with overrides := request.overrides } selection.authors) := by
    refine eval_computePage ready sound ?_ ?_ ?_ accepted ?_
    · exact same ▸ whole
    · exact positive
    · exact same ▸ given
    · exact same ▸ selected
  refine ⟨selection, selected, ?_⟩
  rw [eval_answer_of_fit ready plain whole once fits]
  -- The mark of completeness tells whether to keep the page, so it is left out of the answer.
  have shown (ended : Except (Stop R) (FeedResponse R × Bool)) :
      (ended.map fun page => Answer.feed page.1) = (ended.map Prod.fst).map Answer.feed := by
    cases ended <;> rfl
  rw [shown, computed]
  cases rank weights service.config.ranking.diversityThreshold selection.candidates <;> rfl

end

/-- Where the overrides fit the weights of the reader exactly if they fit the configured ones, a
request is refused exactly if the weights of all three sources together are no weights, and then
without a call; any other request is ranked with just these weights. -/
theorem perform_ranks_by_precedence [FaithfulText R] [SignRules R] (ready : service.IsSound)
    (sound : deployment.IsSound) (coherent : deployment.IsCoherent service fun _ => False)
    (plain : checkFeed service.config { request with overrides := [] } = .ok query)
    (whole : request.identity.isWhole = true) (once : (request.overrides.map Prod.fst).Nodup)
    (legible : ∃ own, service.weightsOf deployment.tables request.identity = .ok own)
    (agree : (∃ weights, Weights.LaidOver request.overrides service.config.weights weights) ↔
      ∃ weights, Weights.LaidOver request.overrides
        (service.baseWeights deployment.tables request.identity) weights) :
    ((∃ cause, (deployment.perform (service.answer (.feed request))).1 =
        .error (.fault (.refused cause))) ↔
      ¬ ∃ weights, Weights.LaidOver request.overrides
        (service.baseWeights deployment.tables request.identity) weights) ∧
    (∀ weights, Weights.LaidOver request.overrides
        (service.baseWeights deployment.tables request.identity) weights →
      ∃ selection, service.select request.identity deployment query.pageSize = .ok selection ∧
        (deployment.perform (service.answer (.feed request))).1 =
          ((rank weights service.config.ranking.diversityThreshold selection.candidates).mapError
            fun cause => .fault (.broken cause)).map fun ranked =>
              .feed (service.pageOf { query with overrides := request.overrides }
                selection.authors ranked)) ∧
    ((∃ cause, (deployment.perform (service.answer (.feed request))).1 =
        .error (.fault (.refused cause))) →
      ∃ cause, (service.answer (C := C) (.feed request)).run =
        .done (.error (.fault (.refused cause)))) := by
  have ended := (perform_coherent coherent (.feed request)).1
  have ranks (weights : Weights R) (laid : Weights.LaidOver request.overrides
      (service.baseWeights deployment.tables request.identity) weights) :=
    eval_answer_ranks ready plain whole once (agree.2 ⟨weights, laid⟩) sound legible laid
  have stops (misfit : ¬ ∃ weights, Weights.LaidOver request.overrides
      (service.baseWeights deployment.tables request.identity) weights) :=
    run_answer_of_misfit (C := C) ready plain once (mt agree.1 misfit)
  -- What is ranked ends with a page or breaks down, but is not refused.
  have misfit_of_refused (refused : ∃ cause, (deployment.perform
      (service.answer (.feed request))).1 = .error (.fault (.refused cause))) :
      ¬ ∃ weights, Weights.LaidOver request.overrides
        (service.baseWeights deployment.tables request.identity) weights := by
    rintro ⟨weights, laid⟩
    obtain ⟨cause, refused⟩ := refused
    obtain ⟨selection, -, ranked⟩ := ranks weights laid
    rw [ended, ranked] at refused
    cases ordered : rank weights service.config.ranking.diversityThreshold selection.candidates with
    | error cause | ok ranked =>
      rw [ordered] at refused
      cases refused
  refine ⟨⟨misfit_of_refused, fun misfit => ?_⟩, fun weights laid => ?_, fun refused => ?_⟩
  · obtain ⟨flaw, run⟩ := stops misfit
    refine ⟨.override flaw, ?_⟩
    rw [ended, Task.eval, run]
    rfl
  · rw [ended]
    exact ranks weights laid
  · obtain ⟨flaw, run⟩ := stops (misfit_of_refused refused)
    exact ⟨.override flaw, run⟩

end Service

def similarityAlone : Weights ℚ := ⟨1, 0, 0, 0, 0⟩

theorem similarityAlone_isValid : similarityAlone.IsValid where
  up signal := by cases signal <;> decide +kernel
  total := by decide +kernel
  finite _ := rfl

def weighingReader : Deployment ℚ ℚ where
  tables :=
    { twoPosts.tables with
      users := [⟨"ann", "ann", none, none, false, some (List.replicate 1024 (.int 1)),
          similarityAlone.toJson, none⟩,
        ⟨"bob", "bob", none, none, false, none, .null, none⟩] }
  cache := .empty
  index := twoPosts.index
  fixedSearch := none
  fixedRetrieval := none
  limits := []
  rules := []
  metrics := .empty

theorem weighingReader_isSound : weighingReader.IsSound where
  tables := {
    dated := ⟨twoPosts_isSound.tables.dated.1, twoPosts_isSound.tables.dated.2⟩
    stored := twoPosts_isSound.tables.stored
    named := twoPosts_isSound.tables.named
    embeddings := twoPosts_isSound.tables.embeddings
    interests := by
      intro user member components stored component inside
      rcases List.mem_pair.1 member with rfl | rfl
      · cases stored
        rw [List.eq_of_mem_replicate inside]
        exact ⟨_, rfl, rfl⟩
      · cases stored
    muted := by
      intro user member keyword inside
      rcases List.mem_pair.1 member with rfl | rfl <;> cases inside }
  distinct := twoPosts_isSound.distinct
  written := twoPosts_isSound.written
  asked := rfl

theorem laidOver_recency {weights : Weights ℚ} (valid : weights.IsValid)
    (total : Scalar.le ({ weights with temporal := 1 } : Weights ℚ).total Scalar.zero = false) :
    Weights.LaidOver [("temporal", .real 1)] weights { weights with temporal := 1 } := by
  have values : Weights.layered [("temporal", .real 1)] weights =
      fun signal => .real (({ weights with temporal := 1 } : Weights ℚ).get signal) := by
    funext signal
    cases signal <;> rfl
  constructor
  · intro change member _
    cases List.mem_singleton.1 member
    exact ⟨.temporal, rfl⟩
  · rw [values]
    refine ⟨fun signal => .real rfl ?_, total⟩
    cases signal with
    | temporal => exact (Exact.isNegative_eq_false 1).2 (by norm_num)
    | similarity => exact valid.up .similarity
    | diversity => exact valid.up .diversity
    | engagement => exact valid.up .engagement
    | privacy => exact valid.up .privacy

/-- A reader who weighs similarity alone asks for as much recency. -/
theorem perform_ranks_by_precedence_of_weighingReader :
    let service : Service ℚ := .standard "discovery" ⟨0, 0⟩
    let request : FeedRequest ℚ := ⟨"ann", .int 1, .null, [("temporal", .real 1)]⟩
    let both : Weights ℚ := ⟨1, 1, 0, 0, 0⟩
    Weights.LaidOver request.overrides (service.baseWeights weighingReader.tables "ann") both ∧
      ∃ selection, service.select "ann" weighingReader 1 = .ok selection ∧
        (weighingReader.perform (service.answer (.feed request))).1 =
          ((rank both service.config.ranking.diversityThreshold selection.candidates).mapError
            fun cause => .fault (.broken cause)).map fun ranked =>
              .feed (service.pageOf ⟨"ann", 1, none, request.overrides⟩ selection.authors
                ranked) := by
  intro service request both
  have plain : Service.checkFeed service.config { request with overrides := [] } =
      .ok ⟨"ann", 1, none, []⟩ := rfl
  have profile : (weighingReader.tables.user? "ann").map UserRow.profile =
      some ⟨similarityAlone.toJson, []⟩ := rfl
  have stored : service.weightsOf weighingReader.tables "ann" = .ok similarityAlone := by
    rw [Service.weightsOf, profile]
    dsimp only
    rw [if_neg (by decide), Weights.ofStored_toJson similarityAlone_isValid]
  have laid : Weights.LaidOver request.overrides
      (service.baseWeights weighingReader.tables "ann") both := by
    rw [← Service.weightsOf_eq stored]
    exact laidOver_recency similarityAlone_isValid (by decide +kernel)
  have configured := laidOver_recency
    (Config.isValid_of_accepted (Service.standard_isSound).accepted) (by decide +kernel)
  have coherent : weighingReader.IsCoherent service fun _ => False :=
    ⟨rfl, rfl, weighingReader_isSound.tables.dated, CacheStore.holds_of_empty rfl⟩
  exact ⟨laid, (Service.perform_ranks_by_precedence Service.standard_isSound weighingReader_isSound
    coherent plain (by decide) (by decide) ⟨_, stored⟩
    ⟨fun _ => ⟨_, laid⟩, fun _ => ⟨_, configured⟩⟩).2.1 _ laid⟩

end PersonalFeed
