import PersonalFeed.Proofs.Coherence.Sources

/-!
Requests that come to the same on a coherent cache as on an empty one. They ask for the parts of
their own requester only, so a value that may be stale is met by the requests that it spoils and by
no others.
-/

set_option autoImplicit false

namespace PersonalFeed

def CacheKey.Feeds (reader : Text) : CacheKey → Prop
  | .interestVector identity | .follows identity | .blocks identity | .seen identity
  | .topics identity | .profile identity | .page identity _ _ _ => identity = reader
  | .similar _ _ _ => False

def CacheKey.Relates (requester : Text) : CacheKey → Prop
  | .follows identity | .blocks identity | .similar _ identity _ => identity = requester
  | _ => False

namespace Service

variable {C R : Type} [Score R] [Component C R] {service : Service R} {answers : Answers C R}

section

variable {asks : Query R → Prop} {doomed : CacheKey → Prop} {excused : Prop}

theorem fetchPosts_tracks (asked : ∀ ids, asks (.content ids)) (ids : List Text) :
    (fetchPosts ids : Task C R (List (Post C))).Tracks
      (coherenceTerms service answers asks doomed).contract answers excused := by
  unfold fetchPosts
  split
  · exact Task.tracks_pure _
  · exact Task.tracks_bind (query_tracks (asked _)) fun rows _ => Task.tracks_ofBreakdown _

theorem fetchAuthors_tracks (asked : ∀ ids, asks (.authors ids)) (ids : List Text) :
    (fetchAuthors ids : Task C R (List Author)).Tracks
      (coherenceTerms service answers asks doomed).contract answers excused := by
  cases ids with
  | nil => exact Task.tracks_pure _
  | cons id rest => exact query_tracks (asked _)

theorem findNeighbours_tracks (query : Embedding C) (limit : Int) (excluded : IdSet)
    (posts : List Text) :
    (findNeighbours query limit excluded posts : Task C R (List (Neighbour C R))).Tracks
      (coherenceTerms service answers asks doomed).contract answers excused := by
  unfold findNeighbours
  split
  · exact Task.tracks_pure _
  · refine Task.tracks_bind (Task.tracks_ofExcept _) fun exclusion _ => ?_
    refine Task.tracks_bind (Task.tracks_ask trivial fun _ same => same) fun outcome _ => ?_
    exact Task.tracks_bind (Task.tracks_answer _ _) fun hits _ => Task.tracks_ofBreakdown _

theorem fetchVectors_tracks (ids : List Text) :
    (fetchVectors ids : Task C R (List (Text × Embedding C))).Tracks
      (coherenceTerms service answers asks doomed).contract answers excused := by
  unfold fetchVectors
  split
  · exact Task.tracks_pure _
  · refine Task.tracks_bind (Task.tracks_ask trivial fun _ same => same) fun outcome _ => ?_
    refine Task.tracks_bind (Task.tracks_answer _ _) fun hits _ => ?_
    exact Task.tracks_bind (Task.tracks_ofBreakdown _) fun neighbours _ => Task.tracks_pure _

theorem count_tracks (count : Count) :
    (Task.count count : Task C R Unit).Tracks
      (coherenceTerms service answers asks doomed).contract answers excused :=
  Task.tracks_ask trivial fun _ _ => rfl

theorem profileWeights_tracks (profile : Option (Profile R)) :
    (service.profileWeights profile : Task C R (Weights R)).Tracks
      (coherenceTerms service answers asks doomed).contract answers excused := by
  unfold profileWeights
  split
  · exact Task.tracks_pure _
  · split
    · exact Task.tracks_pure _
    · split
      · exact Task.tracks_pure _
      · exact Task.tracks_bind (count_tracks _) fun _ _ => Task.tracks_pure _
      · exact Task.tracks_fail _

end

section

variable {doomed : CacheKey → Prop} {excused : Prop}

def ReadsMarks (answers : Answers C R) : Prop :=
  ∀ identity since (marks : List (Text × Timestamp)),
    answers (.query (.seen identity since)) = .answer marks →
      SeenMap.ofJson (SeenMap.toJson marks : Json R) = .ok (SeenMap.ofMarks marks)

variable {reader : Text} (cold : answers.IsCold) (dated : ReadsMarks answers)
  (spoiled : ∀ key : CacheKey, key.Feeds reader → doomed key → excused)

include cold dated spoiled

theorem loadContext_tracks :
    (service.loadContext (C := C) reader).Tracks
      (coherenceTerms service answers (service.asksForFeed reader) doomed).contract
      answers excused := by
  have counts : ∀ count, (coherenceTerms service answers (service.asksForFeed reader)
      doomed).contract.allows (.count count) := fun _ => trivial
  refine Task.tracks_bind ?_ fun _ _ => Task.tracks_pure _
  refine Task.tracks_both (Task.tracks_attempt counts ?_) <|
    Task.tracks_both (Task.tracks_attempt counts ?_) <|
    Task.tracks_both (Task.tracks_attempt counts ?_) <|
    Task.tracks_both (Task.tracks_attempt counts ?_) <|
    Task.tracks_both (Task.tracks_attempt counts ?_) (Task.tracks_attempt counts ?_)
  · exact loadInterest_tracks cold rfl (spoiled (.interestVector reader) rfl)
  · exact loadFollowing_tracks cold rfl (spoiled (.follows reader) rfl)
  · exact loadBlocked_tracks cold rfl (spoiled (.blocks reader) rfl)
  · exact loadSeen_tracks cold (fun since start => ⟨rfl, start⟩) (dated reader)
      (spoiled (.seen reader) rfl)
  · exact loadTopics_tracks cold ⟨rfl, rfl⟩ (spoiled (.topics reader) rfl)
  · exact loadProfile_tracks cold rfl (spoiled (.profile reader) rfl)

omit cold dated spoiled in
theorem computeFrom_tracks (query : FeedQuery R) (context : FeedContext R) (weights : Weights R)
    (interest : Embedding C) :
    (service.computeFrom query context weights interest).Tracks
      (coherenceTerms service answers (service.asksForFeed reader) doomed).contract
      answers excused := by
  have counts : ∀ count, (coherenceTerms service answers (service.asksForFeed reader)
      doomed).contract.allows (.count count) := fun _ => trivial
  unfold computeFrom
  refine Task.tracks_bind (Task.tracks_attempt counts (findNeighbours_tracks ..)) fun found _ => ?_
  -- A part that is lost ends the page early, with the answers as on the way through the stores.
  cases found with
  | none => exact Task.tracks_pure _
  | some found =>
    dsimp only
    split
    · exact Task.tracks_pure _
    · refine Task.tracks_bind
        (Task.tracks_attempt counts (fetchPosts_tracks (fun _ => trivial) _)) fun posts _ => ?_
      cases posts with
      | none => exact Task.tracks_pure _
      | some posts =>
        refine Task.tracks_bind
          (Task.tracks_attempt counts (fetchAuthors_tracks (fun _ => trivial) _)) fun authors _ => ?_
        refine Task.tracks_bind (Task.tracks_ofExcept _) fun candidates _ => ?_
        refine Task.tracks_bind (Task.tracks_ofBreakdown _) fun ranked _ => ?_
        exact Task.tracks_bind (count_tracks _) fun _ _ => Task.tracks_pure _

theorem computePage_tracks {query : FeedQuery R} (own : query.identity = reader) :
    (service.computePage (C := C) query).Tracks
      (coherenceTerms service answers (service.asksForFeed reader) doomed).contract
      answers excused := by
  unfold computePage
  rw [own]
  refine Task.tracks_bind (loadContext_tracks cold dated spoiled) fun context _ => ?_
  refine Task.tracks_bind (profileWeights_tracks _) fun weights _ => ?_
  refine Task.tracks_bind (Task.tracks_ofRefusal _) fun weights _ => ?_
  split
  · exact Task.tracks_pure _
  · refine Task.tracks_bind (Task.tracks_ofExcept _) fun interest _ => ?_
    cases interest with
    | none => exact Task.tracks_bind (count_tracks _) fun _ _ => Task.tracks_pure _
    | some interest => exact computeFrom_tracks query context weights interest

end

section

variable {doomed : CacheKey → Prop} {excused : Prop} {requester : Text}

theorem computeNeighbours_tracks (query : SimilarQuery) (following : Option IdSet)
    (blocked : IdSet) (vector : Tensor C) :
    (service.computeNeighbours query following blocked vector).Tracks
      (coherenceTerms service answers (asksForSimilar requester) doomed).contract
      answers excused := by
  have counts : ∀ count, (coherenceTerms service answers (asksForSimilar requester)
      doomed).contract.allows (.count count) := fun _ => trivial
  refine Task.tracks_bind (Task.tracks_attempt counts ?_) fun found _ => ?_
  · exact Task.tracks_bind (Task.tracks_ofExcept _) fun direction _ => findNeighbours_tracks ..
  · cases found with
    | none => exact Task.tracks_pure _
    | some found =>
      dsimp only
      split
      · exact Task.tracks_pure _
      · refine Task.tracks_bind
          (Task.tracks_attempt counts (fetchPosts_tracks (fun _ => trivial) _)) fun posts _ => ?_
        cases posts with
        | none => exact Task.tracks_pure _
        | some posts =>
          refine Task.tracks_bind (Task.tracks_attempt counts
            (fetchAuthors_tracks (fun _ => trivial) _)) fun authors _ => ?_
          cases authors with
          | none => exact Task.tracks_pure _
          | some authors =>
            exact Task.tracks_bind (Task.tracks_ofExcept _) fun _ _ => Task.tracks_pure _

theorem computeSimilar_tracks (cold : answers.IsCold)
    (spoiled : ∀ key : CacheKey, key.Relates requester → doomed key → excused)
    {query : SimilarQuery} (own : query.requester = requester) :
    (service.computeSimilar (C := C) query).Tracks
      (coherenceTerms service answers (asksForSimilar requester) doomed).contract
      answers excused := by
  have counts : ∀ count, (coherenceTerms service answers (asksForSimilar requester)
      doomed).contract.allows (.count count) := fun _ => trivial
  unfold computeSimilar
  rw [own]
  -- Of the four parts only the two sets of edges can come out of the cache.
  refine Task.tracks_bind
    (Task.tracks_both (Task.tracks_attempt counts (fetchPosts_tracks (fun _ => trivial) _)) <|
      Task.tracks_both (Task.tracks_attempt counts (fetchVectors_tracks _)) <|
      Task.tracks_both (Task.tracks_attempt counts
        (loadFollowing_tracks cold rfl (spoiled (.follows requester) rfl)))
        (Task.tracks_attempt counts
          (loadBlocked_tracks cold rfl (spoiled (.blocks requester) rfl)))) ?_
  rintro ⟨source, stored, following, blocked⟩ _
  cases source with
  | none => exact Task.tracks_pure _
  | some posts =>
    cases blocked with
    | none => exact Task.tracks_pure _
    | some blocked =>
      dsimp only
      split
      · refine Task.tracks_bind (Task.tracks_attempt counts
          (fetchAuthors_tracks (fun _ => trivial) _)) fun authors _ => ?_
        cases authors with
        | none => exact Task.tracks_pure _
        | some authors =>
          dsimp only
          split
          · split
            · exact Task.tracks_pure _
            · exact computeNeighbours_tracks query following blocked _
          · exact Task.tracks_pure _
      · exact Task.tracks_pure _

end

end Service

end PersonalFeed
