import PersonalFeed.Proofs.Cache.Overrides
import PersonalFeed.Proofs.Coherence.Computations
import PersonalFeed.Proofs.Exposure.Answers
import PersonalFeed.Proofs.Requests

/-!
Responses that come to the same on a coherent cache as on an empty one. The key of a page does not
hold the overrides of its request but their fingerprint, which is enough to know the page.
-/

set_option autoImplicit false

namespace PersonalFeed

variable {C R : Type} [Score R] [Component C R]

namespace Service

variable {service : Service R} {answers : Answers C R}

theorem computePage_congr [FaithfulText R] {request request' : FeedRequest R}
    {query query' : FeedQuery R} {fingerprint : Text}
    (checked : checkFeed service.config request = .ok query)
    (checked' : checkFeed service.config request' = .ok query')
    (made : Weights.fingerprint query.overrides = .ok fingerprint)
    (made' : Weights.fingerprint query'.overrides = .ok fingerprint)
    (identity : query'.identity = query.identity) (size : query'.pageSize = query.pageSize)
    (cursor : query'.cursor = query.cursor) :
    (service.computePage query' : Task C R _) = service.computePage query := by
  obtain ⟨_, accepted⟩ := accepted_of_checkFeed checked
  obtain ⟨_, accepted'⟩ := accepted_of_checkFeed checked'
  have same := Weights.withOverrides_congr accepted' accepted made' made
  obtain ⟨reader, count, start, overrides⟩ := query
  obtain ⟨reader', count', start', overrides'⟩ := query'
  cases identity
  cases size
  cases cursor
  unfold computePage
  refine congrArg _ (funext fun context => congrArg _ (funext fun own => ?_))
  rw [same own]
  rfl

theorem page_of_isRight {identity fingerprint : Text} {size : Int} {cursor : Option Text}
    {value : Json R}
    (right : service.IsRight answers (.page identity fingerprint size cursor) value) :
    ∃ request query response, checkFeed service.config request = .ok query ∧
      Weights.fingerprint query.overrides = .ok fingerprint ∧ query.identity = identity ∧
      (query.pageSize : Int) = size ∧ query.cursor = cursor ∧
      (service.computePage query).eval answers = .ok (response, true) ∧ value = response.toJson := by
  cases right with
  | page checked made computed => exact ⟨_, _, _, checked, made, rfl, rfl, rfl, computed, rfl⟩

theorem similar_of_isRight {query : SimilarQuery} {value : Json R}
    (right : service.IsRight answers (.similar query.post query.requester query.limit) value) :
    ∃ response, (service.computeSimilar query).eval answers = .ok (some response) ∧
      value = response.toJson := by
  obtain ⟨post, requester, limit⟩ := query
  generalize keyed : CacheKey.similar post requester limit = key at right
  cases right with
  | @similar query response computed =>
    injection keyed with posts requesters limits
    cases posts
    cases requesters
    cases limits
    exact ⟨response, computed, rfl⟩
  | _ => cases keyed

def ReadsPages (service : Service R) (answers : Answers C R) : Prop :=
  ∀ query response complete, (service.computePage query).eval answers = .ok (response, complete) →
    FeedResponse.read response.toJson = .valid response

def ReadsSimilar (service : Service R) (answers : Answers C R) : Prop :=
  ∀ query response, (service.computeSimilar query).eval answers = .ok (some response) →
    SimilarResponse.read response.toJson = .valid response

variable {doomed : CacheKey → Prop} {excused : Prop}

theorem rankFeed_tracks [FaithfulText R] {request : FeedRequest R} (cold : answers.IsCold)
    (dated : ReadsMarks answers) (legible : ReadsPages service answers)
    (spoiled : ∀ key : CacheKey, key.Feeds request.identity → doomed key → excused)
    (excuses : excused → ∀ fingerprint size cursor,
      doomed (.page request.identity fingerprint size cursor)) :
    (service.rankFeed (C := C) request).Tracks
      (coherenceTerms service answers (service.asksForFeed request.identity) doomed).contract
      answers excused := by
  refine Task.tracks_bind_exact (Task.tracks_ofRefusal _) fun query accepted => ?_
  rw [Task.eval_ofRefusal] at accepted
  have checked := ok_of_mapError accepted
  have own := identity_of_checkFeed checked
  rw [← own] at spoiled excuses ⊢
  refine Task.tracks_bind (count_tracks _) fun _ _ => ?_
  refine Task.tracks_bind_exact (Task.tracks_ofExcept _) fun fingerprint written => ?_
  rw [Task.eval_ofExcept] at written
  have made := ok_of_mapError written
  have proper := proper_of_checkFeed checked made
  refine cached_bind_tracks rfl cold
    (.page query.identity fingerprint query.pageSize query.cursor) proper (fun _ => ?_)
    fun value written good => ⟨Task.tracks_ofExcept _, ?_⟩
  · refine Task.tracks_bind (computePage_tracks cold dated spoiled rfl) fun page tracked => ?_
    obtain ⟨response, complete⟩ := page
    cases complete with
    | false => exact Task.tracks_pure _
    | true =>
      refine Task.tracks_bind (keep_tracks rfl
        (.page query.identity fingerprint query.pageSize query.cursor) proper ?_)
        fun _ _ => Task.tracks_pure _
      rcases tracked with excuse | computed
      · exact .inr (excuses excuse _ _ _)
      · exact .inl (.page checked made computed)
  -- A page that was stored for another request of this key is the one this request computes.
  · rcases good with right | gone
    · obtain ⟨_, _, response, checked', made', identity, size, cursor, computed, rfl⟩ :=
        page_of_isRight right
      rw [computePage_congr checked checked' made made' identity (Int.ofNat.inj size) cursor]
        at computed
      refine .inr ((Task.eval_ofExcept _).trans (Eq.symm ?_))
      refine (Task.eval_bind_ok computed _).trans ?_
      refine (Task.eval_bind_ok (eval_keep written _) _).trans ?_
      rw [legible _ _ _ computed]
      rfl
    · exact .inl (spoiled (.page _ _ _ _) rfl gone)

theorem similarPosts_tracks {request : SimilarRequest R} (cold : answers.IsCold)
    (legible : ReadsSimilar service answers)
    (spoiled : ∀ key : CacheKey, key.Relates request.requester → doomed key → excused)
    (excuses : excused → ∀ post limit, doomed (.similar post request.requester limit)) :
    (service.similarPosts (C := C) request).Tracks
      (coherenceTerms service answers (asksForSimilar request.requester) doomed).contract
      answers excused := by
  refine Task.tracks_bind_exact (Task.tracks_ofRefusal _) fun query accepted => ?_
  rw [Task.eval_ofRefusal] at accepted
  obtain ⟨asked, n, named⟩ := checkSimilar_ok (ok_of_mapError accepted)
  rw [← asked] at spoiled excuses ⊢
  have proper : (CacheKey.similar query.post query.requester query.limit).IsProper :=
    named ▸ PostId.write_lacks n
  refine cached_bind_tracks rfl cold (.similar query.post query.requester query.limit) proper
    (fun _ => ?_) fun value written good => ⟨Task.tracks_ofExcept _, ?_⟩
  · refine Task.tracks_bind (computeSimilar_tracks cold spoiled rfl) fun answer tracked => ?_
    cases answer with
    | none => exact Task.tracks_pure _
    | some response =>
      refine Task.tracks_bind (keep_tracks rfl
        (.similar query.post query.requester query.limit) proper ?_) fun _ _ => Task.tracks_pure _
      -- What is stored is right, unless something doomed went into it; then the list is doomed
      -- itself.
      rcases tracked with excuse | computed
      · exact .inr (excuses excuse _ _)
      · exact .inl (.similar computed)
  · rcases good with right | gone
    · obtain ⟨response, computed, rfl⟩ := similar_of_isRight right
      refine .inr ((Task.eval_ofExcept _).trans (Eq.symm ?_))
      refine (Task.eval_bind_ok computed _).trans ?_
      refine (Task.eval_bind_ok (eval_keep written _) _).trans ?_
      rw [legible _ _ computed]
      rfl
    · exact .inl (spoiled (.similar _ _ _) rfl gone)

end Service

end PersonalFeed
