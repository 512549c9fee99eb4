import PersonalFeed.Proofs.Losses.Neutral

/-!
Lost is as good as absent. A feed with soft losses mirrors the feed of stores that hold nothing in
the lost parts: the contexts tell alike, and so all that follows from them.
-/

set_option autoImplicit false

namespace PersonalFeed

variable {C R : Type}

structure FeedContext.Alike (context other : FeedContext R) : Prop where
  interest : other.interest = context.interest
  following : other.following.getD .empty = context.following.getD .empty
  blocked : other.blocked = context.blocked
  seen : other.seen.getD [] = context.seen.getD []
  topics : other.topics.getD .empty = context.topics.getD .empty
  profile : other.profile?.getD .blank = context.profile?.getD .blank

variable [Score R] [Component C R]

namespace Service

variable {service : Service R} {deployment : Deployment C R} {losses : SoftLosses} {reader : Text}

def keptFor (service : Service R) (losses : SoftLosses) (reader : Text) (query : Query R) : Prop :=
  service.asksForFeed reader query ∧ losses.Keeps query

omit [Component C R] in
theorem agree_of_kept {tables : Tables R} {query : Query R}
    (kept : service.keptFor losses reader query) :
    tables.Agree (tables.without losses reader) query := by
  obtain ⟨asked, keeps⟩ := kept
  have feed : service.asksFor (.feed ⟨reader, .null, .null, []⟩) query := asked
  refine Tables.agree_without (isReading_of_asksFor feed) (fun identity limit same => ?_) keeps
  subst same
  exact asked

theorem eval_of_kept {α : Type} {task : Task C R α} {excused : Prop}
    (tracks : task.Tracks (coherenceTerms service (deployment.answersBut losses)
      (service.keptFor losses reader) fun _ => False).contract (deployment.answersBut losses)
      excused) :
    task.eval (deployment.without losses reader).answers =
      task.eval (deployment.answersBut losses) := by
  refine eval_of_agree Deployment.isCold_answersBut (Deployment.isCold_answers _)
    Deployment.searchAlike_without (fun query kept => ?_) tracks
  rw [Deployment.answersBut_of_keeps kept.2, Deployment.answers_query, Deployment.answers_query]
  exact congrArg Deployment.outcome (agree_of_kept kept)

theorem mirrors_of_kept {α : Type} {task : Task C R α}
    (tracks : task.Tracks (coherenceTerms service (deployment.answersBut losses)
      (service.keptFor losses reader) fun _ => False).contract (deployment.answersBut losses)
      False) :
    Task.Mirrors (deployment.answersBut losses) (deployment.without losses reader).answers Eq task
      task :=
  Task.mirrors_of_eval (fun _ => rfl) (eval_of_kept tracks).symm

omit [Score R] [Component C R] in
/-- A part that is lost on one side stands as what the other side has in its place. -/
theorem mirrors_attempt {α γ : Type} {part : Part} {task : Task C R α} {read : Option α → γ}
    {answers answers' : Answers C R}
    (ends : task.eval answers = task.eval answers' ∨ ∃ (failure : Failure) (value : α),
      task.eval answers = .error failure.stop ∧ task.eval answers' = .ok value ∧
        read (some value) = read none) :
    Task.Mirrors answers answers' (fun found found' => read found' = read found)
      (Task.attempt part task) (Task.attempt part task) := by
  rcases ends with same | ⟨failure, value, failed, ended, neutral⟩
  · refine Task.mirrors_of_eval (fun _ => rfl) ?_
    rw [Task.eval_attempt, Task.eval_attempt, same]
  · unfold Task.Mirrors
    rw [Task.eval_attempt_failed part failed, Task.eval_attempt_ok ended]
    exact neutral

omit [Component C R] in
theorem eval_loadIds_error {answers : Answers C R} {key : CacheKey} (cold : answers.IsCold)
    (written : (service.key key).toString? ≠ none) {load : Task C R (List Text)} {stop : Stop R}
    (failed : load.eval answers = .error stop) :
    (service.loadIds key load).eval answers = .error stop := by
  rw [loadIds, Task.eval_bind_ok (eval_cached cold written)]
  exact Task.eval_bind_error failed _

section

variable (root : service.root.isWhole = true) (whole : reader.isWhole = true)

include root whole

theorem eval_loadFollowing_lost {failure : Failure} (lost : losses .follows = some failure) :
    (service.loadFollowing reader).eval (deployment.answersBut losses) = .error failure.stop :=
  eval_loadIds_error Deployment.isCold_answersBut
    (written_of_whole (.follows reader) root (single_isWhole whole))
    (Task.eval_query_failed (Deployment.answersBut_of_lost rfl lost))

theorem eval_loadTopics_lost {failure : Failure} (lost : losses .topics = some failure) :
    (service.loadTopics (C := C) reader).eval (deployment.answersBut losses) =
      .error failure.stop :=
  eval_loadIds_error Deployment.isCold_answersBut
    (written_of_whole (.topics reader) root (single_isWhole whole))
    (Task.eval_bind_error (Task.eval_query_failed (Deployment.answersBut_of_lost rfl lost)) _)

theorem eval_loadProfile_lost {failure : Failure} (lost : losses .profile = some failure) :
    (service.loadProfile reader).eval (deployment.answersBut losses) = .error failure.stop := by
  have written := written_of_whole (.profile reader) root (single_isWhole whole)
  rw [loadProfile, Task.eval_bind_ok (eval_cached Deployment.isCold_answersBut written)]
  exact Task.eval_bind_error
    (Task.eval_query_failed (Deployment.answersBut_of_lost rfl lost)) _

theorem eval_loadSeen_lost {failure : Failure} (lost : losses .seen = some failure)
    {since : Timestamp}
    (start : retentionStart service.now service.config.ranking.seenRetentionDays = .ok since) :
    (service.loadSeen reader).eval (deployment.answersBut losses) = .error failure.stop := by
  have written := written_of_whole (.seen reader) root (single_isWhole whole)
  rw [loadSeen, Task.eval_bind_ok (eval_cached Deployment.isCold_answersBut written)]
  dsimp only
  rw [start]
  refine (Task.eval_bind_ok rfl _).trans (Task.eval_bind_error ?_ _)
  exact Task.eval_query_failed (Deployment.answersBut_of_lost rfl lost)

omit [Component C R] in
theorem eval_loadSeen_unstarted {answers : Answers C R} (cold : answers.IsCold) {cause : Breakdown}
    (start : retentionStart service.now service.config.ranking.seenRetentionDays = .error cause) :
    (service.loadSeen reader).eval answers = .error (.fault (.broken cause)) := by
  have written := written_of_whole (.seen reader) root (single_isWhole whole)
  rw [loadSeen, Task.eval_bind_ok (eval_cached cold written)]
  dsimp only
  rw [start]
  exact Task.eval_bind_error rfl _

theorem following_mirrors :
    Task.Mirrors (deployment.answersBut losses) (deployment.without losses reader).answers
      (fun found found' => found'.getD .empty = found.getD .empty)
      (Task.attempt .follows (service.loadFollowing reader))
      (Task.attempt .follows (service.loadFollowing reader)) := by
  apply mirrors_attempt
  cases lost : losses .follows with
  | none =>
    have kept : service.keptFor losses reader (.following reader) :=
      ⟨rfl, fun part soft => Option.some.inj soft ▸ lost⟩
    exact .inl (eval_of_kept (loadFollowing_tracks Deployment.isCold_answersBut kept id)).symm
  | some failure =>
    have none : (deployment.without losses reader).tables.following reader = [] :=
      Tables.following_without (lost ▸ rfl)
    refine .inr ⟨failure, _, eval_loadFollowing_lost root whole lost,
      eval_loadFollowing root whole, ?_⟩
    rw [none, sortedIds_nil]
    rfl

theorem topics_mirrors (small : (losses .topics).isSome = true →
      Number.isWord service.config.ranking.recentSavesLimit = true) :
    Task.Mirrors (deployment.answersBut losses) (deployment.without losses reader).answers
      (fun found found' => found'.getD .empty = found.getD .empty)
      (Task.attempt .topics (service.loadTopics (C := C) reader))
      (Task.attempt .topics (service.loadTopics reader)) := by
  apply mirrors_attempt
  cases lost : losses .topics with
  | none =>
    have kept : service.keptFor losses reader
        (.recentSaves reader service.config.ranking.recentSavesLimit) :=
      ⟨⟨rfl, rfl⟩, fun part soft => Option.some.inj soft ▸ lost⟩
    exact .inl (eval_of_kept (loadTopics_tracks Deployment.isCold_answersBut kept id)).symm
  | some failure =>
    -- A failed look-up of saves and an empty list of them both come down to no topics.
    have read : ((deployment.without losses reader).tables.recentSaves reader
        service.config.ranking.recentSavesLimit).mapM PostRow.post =
          (.ok [] : Except Breakdown (List (Post C))) := by
      have none : (deployment.without losses reader).tables.recentSaves reader
          service.config.ranking.recentSavesLimit = [] := Tables.recentSaves_without (lost ▸ rfl) _
      rw [none]
      rfl
    refine .inr ⟨failure, _, eval_loadTopics_lost root whole lost,
      eval_loadTopics root whole (small (lost ▸ rfl)) read, ?_⟩
    simp [Topic.ofPosts, IdSet.empty]

theorem profile_mirrors :
    Task.Mirrors (deployment.answersBut losses) (deployment.without losses reader).answers
      (fun found found' => found'.join.getD .blank = found.join.getD .blank)
      (Task.attempt .profile (service.loadProfile reader))
      (Task.attempt .profile (service.loadProfile reader)) := by
  apply mirrors_attempt
  cases lost : losses .profile with
  | none =>
    have kept : service.keptFor losses reader (.profile reader) :=
      ⟨rfl, fun part soft => Option.some.inj soft ▸ lost⟩
    exact .inl (eval_of_kept (loadProfile_tracks Deployment.isCold_answersBut kept id)).symm
  | some failure =>
    exact .inr ⟨failure, _, eval_loadProfile_lost root whole lost, eval_loadProfile root whole,
      Tables.profile_without (lost ▸ rfl)⟩

theorem seen_mirrors (dated : deployment.tables.IsDated) :
    Task.Mirrors (deployment.answersBut losses) (deployment.without losses reader).answers
      (fun found found' => found'.getD [] = found.getD [])
      (Task.attempt .seen (service.loadSeen reader))
      (Task.attempt .seen (service.loadSeen reader)) := by
  apply mirrors_attempt
  cases lost : losses .seen with
  | none =>
    have kept (since : Timestamp) (start : retentionStart service.now
        service.config.ranking.seenRetentionDays = .ok since) :
        service.keptFor losses reader (.seen reader since) :=
      ⟨⟨rfl, start⟩, fun part soft => Option.some.inj soft ▸ lost⟩
    exact .inl (eval_of_kept (loadSeen_tracks Deployment.isCold_answersBut kept
      (Deployment.readsMarks_answersBut dated reader) id)).symm
  | some failure =>
    cases start : retentionStart service.now service.config.ranking.seenRetentionDays with
    -- Without a start of the window both sides stop before they ask.
    | error cause =>
      exact .inl ((eval_loadSeen_unstarted root whole Deployment.isCold_answersBut start).trans
        (eval_loadSeen_unstarted root whole (Deployment.isCold_answers _) start).symm)
    | ok since =>
      have none : (deployment.without losses reader).tables.seenSince reader since = [] :=
        Tables.seenSince_without (lost ▸ rfl) since
      refine .inr ⟨failure, _, eval_loadSeen_lost root whole lost start,
        eval_loadSeen root whole start, ?_⟩
      rw [none]
      rfl

theorem loadContext_mirrors (dated : deployment.tables.IsDated)
    (small : (losses .topics).isSome = true →
      Number.isWord service.config.ranking.recentSavesLimit = true) :
    Task.Mirrors (deployment.answersBut losses) (deployment.without losses reader).answers
      FeedContext.Alike (service.loadContext (C := C) reader) (service.loadContext reader) := by
  have counts : ∀ count, (coherenceTerms service (deployment.answersBut losses)
      (service.keptFor losses reader) fun _ => False).contract.allows (.count count) :=
    fun _ => trivial
  have cold : (deployment.answersBut losses).IsCold := Deployment.isCold_answersBut
  -- The interest and the blocks are no soft parts, so both sides are told the same.
  refine Task.mirrors_bind (Task.mirrors_both
    (mirrors_of_kept (Task.tracks_attempt counts
      (loadInterest_tracks cold ⟨rfl, fun _ soft => by cases soft⟩ id))) <|
    Task.mirrors_both (following_mirrors root whole) <|
    Task.mirrors_both (mirrors_of_kept (Task.tracks_attempt counts
      (loadBlocked_tracks cold ⟨rfl, fun _ soft => by cases soft⟩ id))) <|
    Task.mirrors_both (seen_mirrors root whole dated) <|
    Task.mirrors_both (topics_mirrors root whole small) (profile_mirrors root whole))
    fun parts parts' alike => ?_
  obtain ⟨interest, following, blocked, seen, topics, profile⟩ := alike
  exact Task.mirrors_pure ⟨interest.symm, following, blocked.symm, seen, topics, profile⟩

end

omit [Component C R] in
theorem profileWeights_getD (profile : Option (Profile R)) :
    (service.profileWeights (some (profile.getD .blank)) : Task C R _) =
      service.profileWeights profile := by
  cases profile <;> rfl

section

variable {context context' : FeedContext R} (alike : context.Alike context')

include alike

omit [Score R] [Component C R] in
theorem viewpointOf_alike (authors : Option (List Author)) :
    viewpointOf reader context' authors = viewpointOf reader context authors := by
  unfold viewpointOf
  rw [alike.blocked, alike.following]

omit [Component C R] in
theorem profileWeights_alike :
    (service.profileWeights context'.profile? : Task C R _) =
      service.profileWeights context.profile? := by
  rw [← profileWeights_getD, alike.profile, profileWeights_getD]

omit [Score R] [Component C R] in
theorem muted_alike :
    (context'.profile?.map (·.muted)).getD [] = (context.profile?.map (·.muted)).getD [] := by
  have muted (profile : Option (Profile R)) :
      (profile.map (·.muted)).getD [] = (profile.getD .blank).muted := by
    cases profile <;> rfl
  rw [muted, muted, alike.profile]

theorem computeFrom_mirrors (query : FeedQuery R) (weights : Weights R) (interest : Embedding C) :
    Task.Mirrors (deployment.answersBut losses) (deployment.without losses reader).answers
      (fun page page' => page'.1 = page.1) (service.computeFrom query context weights interest)
      (service.computeFrom query context' weights interest) := by
  have counts : ∀ count, (coherenceTerms service (deployment.answersBut losses)
      (service.keptFor losses reader) fun _ => False).contract.allows (.count count) :=
    fun _ => trivial
  have asked : ∀ ids, service.keptFor losses reader (.content ids) :=
    fun _ => ⟨trivial, fun _ soft => by cases soft⟩
  have listed : ∀ ids, service.keptFor losses reader (.authors ids) :=
    fun _ => ⟨trivial, fun _ soft => by cases soft⟩
  unfold computeFrom
  rw [alike.blocked]
  refine Task.mirrors_bind (mirrors_of_kept (Task.tracks_attempt counts (findNeighbours_tracks ..)))
    fun found _ same => ?_
  subst same
  cases found with
  | none => exact Task.mirrors_pure rfl
  | some found =>
    dsimp only
    split
    · exact Task.mirrors_pure rfl
    · refine Task.mirrors_bind (mirrors_of_kept (Task.tracks_attempt counts
        (fetchPosts_tracks asked _))) fun posts _ same => ?_
      subst same
      cases posts with
      | none => exact Task.mirrors_pure rfl
      | some posts =>
        refine Task.mirrors_bind (mirrors_of_kept (Task.tracks_attempt counts
          (fetchAuthors_tracks listed _))) fun authors _ same => ?_
        subst same
        -- All that is used of the contexts is alike, so the candidates are the same.
        rw [viewpointOf_alike alike, alike.seen, alike.topics, muted_alike alike]
        refine Task.mirrors_bind (Task.mirrors_ofExcept _) fun candidates _ same => ?_
        subst same
        refine Task.mirrors_bind (Task.mirrors_ofBreakdown _) fun ranked _ same => ?_
        subst same
        exact Task.mirrors_bind (Task.mirrors_count _) fun _ _ _ => Task.mirrors_pure rfl

end

theorem computePage_mirrors {query : FeedQuery R} (own : query.identity = reader)
    (root : service.root.isWhole = true) (whole : reader.isWhole = true)
    (dated : deployment.tables.IsDated)
    (small : (losses .topics).isSome = true →
      Number.isWord service.config.ranking.recentSavesLimit = true) :
    Task.Mirrors (deployment.answersBut losses) (deployment.without losses reader).answers
      (fun page page' => page'.1 = page.1) (service.computePage (C := C) query)
      (service.computePage query) := by
  unfold computePage
  rw [own]
  refine Task.mirrors_bind (loadContext_mirrors root whole dated small) fun context context' alike => ?_
  -- Two contexts that are alike lead to the same weights and the same interest, so from here both
  -- sides are one task.
  rw [profileWeights_alike alike, alike.interest]
  refine Task.mirrors_bind (mirrors_of_kept (profileWeights_tracks _)) fun weights _ same => ?_
  subst same
  refine Task.mirrors_bind (Task.mirrors_ofRefusal _) fun weights _ same => ?_
  subst same
  split
  · exact Task.mirrors_pure rfl
  · refine Task.mirrors_bind (Task.mirrors_ofExcept _) fun interest _ same => ?_
    subst same
    cases interest with
    | none => exact Task.mirrors_bind (Task.mirrors_count _) fun _ _ _ => Task.mirrors_pure rfl
    | some interest => exact computeFrom_mirrors alike query weights interest

omit [Score R] [Component C R] in
theorem whole_of_pageKey {identity fingerprint : Text} {size : Int} {cursor : Option Text}
    (written : (service.key (.page identity fingerprint size cursor)).toString? ≠ none) :
    service.root.isWhole = true ∧ identity.isWhole = true := by
  rw [Option.ne_none_iff_isSome, Text.toString?_isSome, Service.key, CacheKey.text,
    CacheKey.isWhole_join, Bool.and_eq_true, CacheKey.parts, List.all_cons, Bool.and_eq_true]
    at written
  exact ⟨written.1, written.2.1⟩

omit [Score R] [Component C R] in
theorem eval_kept {answers : Answers C R} {key : CacheKey}
    (written : (service.key key).toString? ≠ none) (response : FeedResponse R) (complete : Bool) :
    (do if complete then service.keep key response.toJson
        return response : Task C R (FeedResponse R)).eval answers = .ok response := by
  cases complete with
  | false => rfl
  | true => exact Task.eval_bind_ok (eval_keep written _) _

/-- A feed with soft losses ends as on stores that hold nothing in the lost parts. -/
theorem rankFeed_mirrors (request : FeedRequest R) (dated : deployment.tables.IsDated)
    (small : (losses .topics).isSome = true →
      Number.isWord service.config.ranking.recentSavesLimit = true) :
    Task.Mirrors (deployment.answersBut losses)
      (deployment.without losses request.identity).answers Eq (service.rankFeed (C := C) request)
      (service.rankFeed request) := by
  cases checked : checkFeed service.config request with
  | error cause =>
    rw [rankFeed, checked]
    exact Task.mirrors_throw _
  | ok query =>
    have own := identity_of_checkFeed checked
    rw [rankFeed, checked]
    change Task.Mirrors _ _ _ (Task.count .feed >>= fun _ => service.rankFeedChecked query)
      (Task.count .feed >>= fun _ => service.rankFeedChecked query)
    refine Task.mirrors_bind (Task.mirrors_count _) fun _ _ _ => ?_
    unfold rankFeedChecked
    refine Task.mirrors_bind (Task.mirrors_ofExcept _) fun fingerprint _ same => ?_
    subst same
    have cold : (deployment.answersBut losses).IsCold := Deployment.isCold_answersBut
    have cold' := Deployment.isCold_answers (deployment.without losses request.identity)
    by_cases written : (service.key
        (.page query.identity fingerprint query.pageSize query.cursor)).toString? = none
    -- A key that cannot be written stops both sides before they load anything.
    · refine Task.mirrors_of_eval (fun _ => rfl) ?_
      exact (Task.eval_bind_error (eval_cached_unwritten written) _).trans
        (Task.eval_bind_error (eval_cached_unwritten written) _).symm
    · obtain ⟨root, whole⟩ := whole_of_pageKey written
      have pages := computePage_mirrors own root (own ▸ whole) dated small
      -- Both find nothing, and they differ in what they keep, but not in what they show.
      unfold Task.Mirrors
      rw [Task.eval_bind_ok (eval_cached cold written), Task.eval_bind_ok (eval_cached cold' written)]
      refine Task.mirrors_bind pages fun page page' same => ?_
      refine Task.mirrors_of_eval (fun _ => rfl) ?_
      rw [eval_kept written, eval_kept written, same]

end Service

end PersonalFeed
