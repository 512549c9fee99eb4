import PersonalFeed.Proofs.Cache.Decoding
import PersonalFeed.Proofs.Cache.Lookups
import PersonalFeed.Proofs.Program.Evaluation
import PersonalFeed.Service.Similar

/-!
Where cached values come from. A cached value is right if it is what a request would store that
finds nothing in the cache. Each key names the queries that its value is made of. A request that
finds right values only comes to the same as one that finds nothing.
-/

set_option autoImplicit false

namespace PersonalFeed

variable {C R : Type}

def Answers.IsCold (answers : Answers C R) : Prop := ∀ key, answers (.read key) = .absent

structure Answers.SearchAlike (answers answers' : Answers C R) : Prop where
  search : ∀ query limit exclusion,
    answers' (.search query limit exclusion) = answers (.search query limit exclusion)
  retrieve : ∀ ids, answers' (.retrieve ids) = answers (.retrieve ids)

namespace Service

section

variable [Score R] [Component C R]

/-- A value that a request would store under a key by the answers of the other stores. -/
inductive IsRight (service : Service R) (answers : Answers C R) : CacheKey → Json R → Prop
  | interestVector {identity : Text} {components : List (Json R)}
      (stored : answers (.query (.interestVector identity)) = .answer (some components)) :
      IsRight service answers (.interestVector identity) (.array components)
  | follows {identity : Text} {ids : List Text}
      (stored : answers (.query (.following identity)) = .answer ids) :
      IsRight service answers (.follows identity) (.ofTexts (sortedIds ids))
  | blocks {identity : Text} {ids : List Text}
      (stored : answers (.query (.blocked identity)) = .answer ids) :
      IsRight service answers (.blocks identity) (.ofTexts (sortedIds ids))
  | seen {identity : Text} {since : Timestamp} {marks : List (Text × Timestamp)}
      (start : retentionStart service.now service.config.ranking.seenRetentionDays = .ok since)
      (stored : answers (.query (.seen identity since)) = .answer marks) :
      IsRight service answers (.seen identity) (SeenMap.toJson marks)
  | topics {identity : Text} {rows : List (PostRow R)} {posts : List (Post C)}
      (stored : answers (.query (.recentSaves identity service.config.ranking.recentSavesLimit)) =
        .answer rows)
      (read : rows.mapM PostRow.post = .ok posts) :
      IsRight service answers (.topics identity) (.ofTexts (sortedIds (Topic.ofPosts posts)))
  | profile {identity : Text} {profile : Option (Profile R)}
      (stored : answers (.query (.profile identity)) = .answer profile) :
      IsRight service answers (.profile identity) (Profile.toJson profile)
  | page {request : FeedRequest R} {query : FeedQuery R} {fingerprint : Text}
      {response : FeedResponse R} (checked : checkFeed service.config request = .ok query)
      (made : Weights.fingerprint query.overrides = .ok fingerprint)
      (computed : (service.computePage query).eval answers = .ok (response, true)) :
      IsRight service answers (.page query.identity fingerprint query.pageSize query.cursor)
        response.toJson
  | similar {query : SimilarQuery} {response : SimilarResponse R}
      (computed : (service.computeSimilar query).eval answers = .ok (some response)) :
      IsRight service answers (.similar query.post query.requester query.limit) response.toJson

end

def asksForFeed (service : Service R) (reader : Text) : Query R → Prop
  | .interestVector identity | .profile identity | .following identity | .blocked identity =>
    identity = reader
  | .recentSaves identity limit =>
    identity = reader ∧ limit = service.config.ranking.recentSavesLimit
  | .seen identity since =>
    identity = reader ∧
      retentionStart service.now service.config.ranking.seenRetentionDays = .ok since
  | .authors _ | .content _ => True
  | .setInterestVector _ _ | .interestSources _ _ | .recordSeen _ _ _ | .purgeSeen _ => False

def asksForSimilar (requester : Text) : Query R → Prop
  | .following identity | .blocked identity => identity = requester
  | .authors _ | .content _ => True
  | _ => False

def dependsOn (service : Service R) : CacheKey → Query R → Prop
  | .interestVector identity, query => query = .interestVector identity
  | .follows identity, query => query = .following identity
  | .blocks identity, query => query = .blocked identity
  | .seen identity, .seen viewer since =>
    viewer = identity ∧
      retentionStart service.now service.config.ranking.seenRetentionDays = .ok since
  | .topics identity, query =>
    query = .recentSaves identity service.config.ranking.recentSavesLimit
  | .profile identity, query => query = .profile identity
  | .page identity _ _ _, query => service.asksForFeed identity query
  | .similar _ requester _, query => asksForSimilar requester query
  | .seen _, _ => False

end Service

/-- The terms of a request that asks some queries while some keys may hold anything: all other
values are right, and what is no look-up has the given answers. -/
def coherenceTerms [Score R] [Component C R] (service : Service R) (answers : Answers C R)
    (asks : Query R → Prop) (doomed : CacheKey → Prop) : Terms C R where
  root := service.root
  asks := asks
  good key value := service.IsRight answers key value ∨ doomed key
  replies
    | .query query, reply => reply = answers (.query query)
    | .search query limit exclusion, reply => reply = answers (.search query limit exclusion)
    | .retrieve ids, reply => reply = answers (.retrieve ids)
    | _, _ => True

namespace Service

section

variable [Numeral R] {answers : Answers C R} {service : Service R} {key : CacheKey}

theorem eval_cached (cold : answers.IsCold) (written : (service.key key).toString? ≠ none) :
    (service.cached key : Task C R _).eval answers = .ok none := by
  cases encoded : (service.key key).toString? with
  | none => exact absurd encoded written
  | some s =>
    rw [cached, lookUp, Task.encoded_of_some encoded, pure_bind,
      Task.eval_bind_ok (Task.eval_ask (.read s)), cold s]
    rfl

theorem eval_cached_unwritten (unwritten : (service.key key).toString? = none) :
    (service.cached key : Task C R _).eval answers =
      .error (.fault (.broken .unencodable)) := by
  rw [cached, lookUp, Task.encoded_of_none unwritten]
  rfl

omit [Numeral R] in
theorem eval_keep (written : (service.key key).toString? ≠ none) (value : Json R) :
    (service.keep key value : Task C R Unit).eval answers = .ok () := by
  change (Task.encoded (service.key key) >>= fun _ => pure () : Task C R Unit).eval answers = _
  cases encoded : (service.key key).toString? with
  | none => exact absurd encoded written
  | some s =>
    rw [Task.encoded_of_some encoded]
    rfl

omit [Numeral R] in
theorem eval_keep_unwritten (unwritten : (service.key key).toString? = none) (value : Json R) :
    (service.keep key value : Task C R Unit).eval answers =
      .error (.fault (.broken .unencodable)) := by
  change (Task.encoded (service.key key) >>= fun _ => pure () : Task C R Unit).eval answers = _
  rw [Task.encoded_of_none unwritten]
  rfl

variable {α : Type} {terms : Terms C R} {excused : Prop}

/-- A look-up and what follows it come to what follows a miss, if every value that may be found
leads there too. -/
theorem cached_bind_tracks (rooted : service.root = terms.root) (cold : answers.IsCold)
    (key : CacheKey) (proper : key.IsProper) {f : Option (Json R) → Task C R α}
    (miss : (service.key key).toString? ≠ none →
      (f none).Tracks terms.contract answers excused)
    (hit : ∀ value, (service.key key).toString? ≠ none → terms.good key value →
      (f (some value)).Tracks terms.contract answers excused ∧
        (excused ∨ (f (some value)).eval answers = (f none).eval answers)) :
    (service.cached key >>= f).Tracks terms.contract answers excused := by
  have whole (written : (service.key key).toString? ≠ none) :
      (service.cached key >>= f).eval answers = (f none).eval answers :=
    Task.eval_bind_ok (eval_cached cold written) f
  rw [Task.Tracks, Program.Tracks, ExceptT.run_bind]
  refine Program.meets_bind (cached_meets rooted key proper
    (P := fun found =>
      ((service.key key).toString? = none ∧ found = .error (.fault (.broken .unencodable))) ∨
      (service.key key).toString? ≠ none ∧ (found = .ok none ∨
        ∃ value, terms.good key value ∧ found = .ok (some value)))
    (fun unwritten => .inl ⟨unwritten, rfl⟩) (fun written => .inr ⟨written, .inl rfl⟩)
    (fun value written good => .inr ⟨written, .inr ⟨value, good, rfl⟩⟩)) ?_
  -- Without a cache the look-up is a miss, so all that remains is that a hit leads to the same end.
  rintro found (⟨unwritten, rfl⟩ | ⟨written, rfl | ⟨value, good, rfl⟩⟩)
  · exact .inr (Task.eval_bind_error (eval_cached_unwritten unwritten) f).symm
  · refine Program.meets_mono (miss written) fun result => .imp_right fun same => ?_
    exact same.trans (whole written).symm
  · obtain ⟨tracks, same⟩ := hit value written good
    refine Program.meets_mono tracks fun result => ?_
    rintro (excuse | tracked)
    · exact .inl excuse
    · exact same.imp_right fun same => tracked.trans (same.trans (whole written).symm)

omit [Numeral R] in
theorem keep_tracks (rooted : service.root = terms.root) (key : CacheKey) (proper : key.IsProper)
    {value : Json R} (good : terms.good key value) :
    (service.keep key value : Task C R Unit).Tracks terms.contract answers excused :=
  keep_meets rooted key proper good
    (fun unwritten => .inr (eval_keep_unwritten unwritten value).symm)
    (fun written => .inr (eval_keep written value).symm)

end

section

variable [Score R] [Component C R] {service : Service R} {answers : Answers C R}
variable {asks : Query R → Prop} {doomed : CacheKey → Prop} {excused : Prop}

theorem query_tracks {query : Query R} (asked : asks query) :
    (Task.query query : Task C R _).Tracks (coherenceTerms service answers asks doomed).contract
      answers excused :=
  Task.tracks_query asked fun _ same => same

/-- A set is loaded as it would be without a cache, if its key is not doomed. -/
theorem loadIds_tracks (cold : answers.IsCold) (key : CacheKey) (proper : key.IsProper)
    {load : Task C R (List Text)}
    (exact : load.Tracks (coherenceTerms service answers asks doomed).contract answers False)
    (store : ∀ ids, load.eval answers = .ok ids →
      service.IsRight answers key (.ofTexts (sortedIds ids)))
    (stored : ∀ value, service.IsRight answers key value →
      ∃ ids, load.eval answers = .ok ids ∧ value = .ofTexts (sortedIds ids))
    (spoiled : doomed key → excused) :
    (service.loadIds key load).Tracks (coherenceTerms service answers asks doomed).contract
      answers excused := by
  refine cached_bind_tracks rfl cold key proper (fun _ => ?_) fun value written good => ?_
  · refine Task.tracks_bind_exact exact fun ids loaded => ?_
    refine Task.tracks_bind (keep_tracks rfl key proper (.inl (store ids loaded))) fun _ _ => ?_
    exact Task.tracks_pure _
  · refine ⟨Task.tracks_ofBreakdown _, ?_⟩
    -- A right entry is the list of the set itself, so reading it gives what loading it would.
    rcases good with right | gone
    · obtain ⟨ids, loaded, rfl⟩ := stored value right
      right
      dsimp only
      rw [Task.eval_bind_ok loaded, Task.eval_bind_ok (eval_keep written _), Task.eval_ofBreakdown,
        IdSet.ofJson_ofTexts (nodup_sortedIds ids)]
      rfl
    · exact .inl (spoiled gone)

theorem loadFollowing_tracks (cold : answers.IsCold) {identity : Text}
    (asked : asks (.following identity)) (spoiled : doomed (.follows identity) → excused) :
    (service.loadFollowing identity).Tracks
      (coherenceTerms service answers asks doomed).contract answers excused := by
  refine loadIds_tracks cold (.follows identity) trivial (query_tracks asked) ?_ ?_ spoiled
  · exact fun ids loaded => .follows (Task.answered_of_eval loaded)
  · intro value right
    cases right with
    | follows stored => exact ⟨_, Task.eval_query stored, rfl⟩

theorem loadBlocked_tracks (cold : answers.IsCold) {identity : Text}
    (asked : asks (.blocked identity)) (spoiled : doomed (.blocks identity) → excused) :
    (service.loadBlocked identity).Tracks
      (coherenceTerms service answers asks doomed).contract answers excused := by
  refine loadIds_tracks cold (.blocks identity) trivial (query_tracks asked) ?_ ?_ spoiled
  · exact fun ids loaded => .blocks (Task.answered_of_eval loaded)
  · intro value right
    cases right with
    | blocks stored => exact ⟨_, Task.eval_query stored, rfl⟩

theorem loadTopics_tracks (cold : answers.IsCold) {identity : Text}
    (asked : asks (.recentSaves identity service.config.ranking.recentSavesLimit))
    (spoiled : doomed (.topics identity) → excused) :
    (service.loadTopics (C := C) identity).Tracks
      (coherenceTerms service answers asks doomed).contract answers excused := by
  refine loadIds_tracks cold (.topics identity) trivial ?_ ?_ ?_ spoiled
  · refine Task.tracks_bind (query_tracks asked) fun rows _ => ?_
    exact Task.tracks_bind (Task.tracks_ofBreakdown _) fun posts _ => Task.tracks_pure _
  · intro ids loaded
    rw [Task.eval_bind] at loaded
    obtain ⟨rows, queried, loaded⟩ := ok_of_bind loaded
    rw [Task.eval_bind, Task.eval_ofBreakdown] at loaded
    obtain ⟨posts, read, loaded⟩ := ok_of_bind loaded
    cases loaded
    exact .topics (Task.answered_of_eval queried) (ok_of_mapError read)
  · rintro value right
    cases right with
    | topics stored read =>
      refine ⟨_, ?_, rfl⟩
      rw [Task.eval_bind_ok (Task.eval_query stored), Task.eval_bind, Task.eval_ofBreakdown, read]
      rfl

/-- A part that is one stored value is loaded as it would be without a cache. -/
theorem loadInterest_tracks (cold : answers.IsCold) {identity : Text}
    (asked : asks (.interestVector identity))
    (spoiled : doomed (.interestVector identity) → excused) :
    (service.loadInterest identity).Tracks
      (coherenceTerms service answers asks doomed).contract answers excused := by
  refine cached_bind_tracks rfl cold (.interestVector identity) trivial (fun _ => ?_)
    fun value written good => ?_
  · refine Task.tracks_bind_exact (query_tracks asked) fun stored queried => ?_
    cases stored with
    | none => exact Task.tracks_pure _
    | some components =>
      have right : service.IsRight answers (.interestVector identity) (.array components) :=
        .interestVector (Task.answered_of_eval queried)
      refine Task.tracks_bind (keep_tracks rfl (.interestVector identity) trivial (.inl right))
        fun _ _ => ?_
      exact Task.tracks_pure _
  · refine ⟨Task.tracks_pure _, ?_⟩
    -- A cached value is right, and then it is what loading would come to, or the key is doomed.
    rcases good with right | gone
    · cases right with
      | interestVector stored =>
        exact .inr ((Task.eval_bind_ok (Task.eval_query stored) _).trans
          (Task.eval_bind_ok (eval_keep written _) _)).symm
    · exact .inl (spoiled gone)

theorem loadProfile_tracks (cold : answers.IsCold) {identity : Text}
    (asked : asks (.profile identity)) (spoiled : doomed (.profile identity) → excused) :
    (service.loadProfile identity).Tracks
      (coherenceTerms service answers asks doomed).contract answers excused := by
  refine cached_bind_tracks rfl cold (.profile identity) trivial (fun _ => ?_)
    fun value written good => ?_
  · refine Task.tracks_bind_exact (query_tracks asked) fun profile queried => ?_
    have right : service.IsRight answers (.profile identity) (Profile.toJson profile) :=
      .profile (Task.answered_of_eval queried)
    refine Task.tracks_bind (keep_tracks rfl (.profile identity) trivial (.inl right)) fun _ _ => ?_
    exact Task.tracks_pure _
  · refine ⟨Task.tracks_ofBreakdown _, ?_⟩
    rcases good with right | gone
    · cases right with
      | profile stored =>
        refine .inr (Eq.trans ?_ ((Task.eval_bind_ok (Task.eval_query stored) _).trans
          (Task.eval_bind_ok (eval_keep written _) _)).symm)
        rw [Task.eval_ofBreakdown, Profile.ofJson_toJson]
        rfl
    · exact .inl (spoiled gone)

/-- Marks are loaded as they would be without a cache, if their moments can be read back. -/
theorem loadSeen_tracks (cold : answers.IsCold) {identity : Text}
    (asked : ∀ since, retentionStart service.now service.config.ranking.seenRetentionDays =
      .ok since → asks (.seen identity since))
    (dated : ∀ since marks, answers (.query (.seen identity since)) = .answer marks →
      SeenMap.ofJson (SeenMap.toJson marks : Json R) = .ok (SeenMap.ofMarks marks))
    (spoiled : doomed (.seen identity) → excused) :
    (service.loadSeen identity).Tracks
      (coherenceTerms service answers asks doomed).contract answers excused := by
  refine cached_bind_tracks rfl cold (.seen identity) trivial (fun _ => ?_)
    fun value written good => ?_
  · refine Task.tracks_bind_exact (Task.tracks_ofBreakdown _) fun since started => ?_
    rw [Task.eval_ofBreakdown] at started
    have start := ok_of_mapError started
    refine Task.tracks_bind_exact (query_tracks (asked since start)) fun marks queried => ?_
    have right := IsRight.seen start (Task.answered_of_eval queried)
    refine Task.tracks_bind (keep_tracks rfl (.seen identity) trivial (.inl right)) fun _ _ => ?_
    exact Task.tracks_pure _
  · refine ⟨Task.tracks_ofBreakdown _, ?_⟩
    rcases good with right | gone
    -- The entry was made of marks of the same window, and its moments are read as they were.
    · cases right with
      | @seen _ since marks start stored =>
        have started : (Task.ofBreakdown (retentionStart service.now
            service.config.ranking.seenRetentionDays) : Task C R _).eval answers = .ok since := by
          rw [Task.eval_ofBreakdown, start]
          rfl
        refine .inr (Eq.trans (b := .ok (SeenMap.ofMarks marks)) ?_ (Eq.symm ?_))
        · rw [Task.eval_ofBreakdown, dated _ _ stored]
          rfl
        · refine (Task.eval_bind_ok started _).trans ?_
          exact (Task.eval_bind_ok (Task.eval_query stored) _).trans
            (Task.eval_bind_ok (eval_keep written _) _)
    · exact .inl (spoiled gone)

/-- What asks certain queries only comes to the same where they are answered alike. -/
theorem eval_of_agree {answers' : Answers C R} (cold : answers.IsCold) (cold' : answers'.IsCold)
    (alike : answers.SearchAlike answers')
    (agree : ∀ query, asks query → answers' (.query query) = answers (.query query)) {α : Type}
    {task : Task C R α}
    (tracks : task.Tracks (coherenceTerms service answers asks doomed).contract answers excused) :
    task.eval answers' = task.eval answers := by
  refine Program.eval_congr tracks (fun call allowed => ?_) fun call allowed => ?_
  · cases call with
    | query | search | retrieve => rfl
    | index | openIndex | delete | scan => exact allowed.elim
    | read key => exact fun entry found => by cases (cold key).symm.trans found
    | write | count => trivial
  · cases call with
    | query query => exact agree query allowed
    | search query limit exclusion => exact alike.search query limit exclusion
    | retrieve ids => exact alike.retrieve ids
    | index | openIndex | delete | scan => exact allowed.elim
    | read key => rw [cold', cold]
    | write | count => rfl

end

end Service

end PersonalFeed
