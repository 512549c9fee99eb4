import PersonalFeed.Proofs.Cache.Distinct
import PersonalFeed.Proofs.Losses.Loads

/-!
Responses of which a part was lost. A feed is kept only if every look-up for it was answered. So is
a list of similar posts, but for two look-ups: that of the follows and that of the stored vector.
-/

set_option autoImplicit false

namespace PersonalFeed

variable {C R : Type}

/-- By a contract the parts may be loaded that all responses to a person have in common. -/
structure Contract.Carries [Score R] [Component C R] (contract : Contract C R)
    (service : Service R) (person : Text) : Prop where
  counts : ∀ count, contract.allows (.count count)
  following : Task.Obeys contract (service.loadFollowing person : Task C R IdSet)
  blocked : Task.Obeys contract (service.loadBlocked person : Task C R IdSet)
  neighbours : ∀ vector limit excluded posts, Task.Obeys contract
    (Service.findNeighbours vector limit excluded posts : Task C R (List (Neighbour C R)))
  posts : ∀ ids, Task.Obeys contract (Service.fetchPosts ids : Task C R (List (Post C)))
  authors : ∀ ids, Task.Obeys contract (Service.fetchAuthors ids : Task C R (List Author))

structure Contract.CarriesFeed [Score R] [Component C R] (contract : Contract C R)
    (service : Service R) (reader : Text) : Prop extends contract.Carries service reader where
  interest : Task.Obeys contract (service.loadInterest reader : Task C R (Option (Json R)))
  seen : Task.Obeys contract (service.loadSeen reader : Task C R SeenMap)
  topics : Task.Obeys contract (service.loadTopics reader : Task C R IdSet)
  profile : Task.Obeys contract (service.loadProfile reader : Task C R (Option (Profile R)))

structure Contract.CarriesSimilar [Score R] [Component C R] (contract : Contract C R)
    (service : Service R) (requester : Text) : Prop
    extends contract.Carries service requester where
  vectors : ∀ ids, Task.Obeys contract
    (Service.fetchVectors ids : Task C R (List (Text × Embedding C)))

namespace Service

variable [Score R] [Component C R] {service : Service R} {contract : Contract C R}
variable {spares : String → Prop}

section

variable {reader : Text} (carries : contract.CarriesFeed service reader)

include carries

theorem loadContext_discloses :
    (service.loadContext (C := C) reader).Discloses contract spares
      (fun context => context.isComplete = true) True := by
  have attempt {α : Type} {part : Part} {task : Task C R α}
      (strict : task.IsStrict fun _ => True) (obeys : task.Obeys contract) :
      (Task.attempt part task).Discloses contract spares (fun found => found.isSome = true) True :=
    Task.discloses_attempt carries.counts (Task.discloses_of_strict strict obeys)
  refine Task.discloses_bind
    (Task.discloses_both (attempt (loadInterest_isStrict trivial) carries.interest) <|
    Task.discloses_both (attempt (loadFollowing_isStrict trivial) carries.following) <|
    Task.discloses_both (attempt (loadBlocked_isStrict trivial) carries.blocked) <|
    Task.discloses_both (attempt (loadSeen_isStrict fun _ => trivial) carries.seen) <|
    Task.discloses_both (attempt (loadTopics_isStrict fun _ => trivial) carries.topics)
      (attempt (loadProfile_isStrict trivial) carries.profile)) fun parts => ?_
  apply Task.discloses_pure
  intro complete
  simp only [FeedContext.isComplete, Bool.and_eq_true] at complete
  obtain ⟨⟨⟨⟨⟨interest, following⟩, blocked⟩, seen⟩, topics⟩, profile⟩ := complete
  exact ⟨interest, following, blocked, seen, topics, profile⟩

omit carries [Component C R] in
theorem profileWeights_discloses (counts : ∀ count, contract.allows (.count count))
    (profile : Option (Profile R)) {intact : Prop} :
    (service.profileWeights profile : Task C R (Weights R)).Discloses contract spares
      (fun _ => intact) intact := by
  unfold profileWeights
  split
  · exact Task.discloses_pure id
  · split
    · exact Task.discloses_pure id
    · split
      · exact Task.discloses_pure id
      · exact Task.discloses_bind (Task.discloses_ask (counts _) rfl) fun _ =>
          Task.discloses_pure id
      · exact Task.discloses_throw _

theorem computeFrom_discloses (query : FeedQuery R) (context : FeedContext R) (weights : Weights R)
    (interest : Embedding C) :
    (service.computeFrom query context weights interest).Discloses contract spares
      (fun page => page.2 = true) (context.isComplete = true) := by
  have counts := carries.counts
  unfold computeFrom
  refine Task.discloses_bind (Task.discloses_part counts (findNeighbours_isStrict trivial)
    (carries.neighbours ..)) fun found => ?_
  cases found with
  | none => exact Task.discloses_pure fun complete => by cases complete
  | some found =>
    dsimp only
    split
    · exact Task.discloses_pure fun complete => ⟨rfl, complete⟩
    · refine Task.discloses_bind (Task.discloses_part counts (fetchPosts_isStrict fun _ => trivial)
        (carries.posts _)) fun posts => ?_
      cases posts with
      | none => exact Task.discloses_pure fun complete => by cases complete
      | some posts =>
        refine Task.discloses_bind (Task.discloses_part counts
          (fetchAuthors_isStrict fun _ => trivial) (carries.authors _))
          fun authors => ?_
        refine Task.discloses_bind (Task.discloses_ofExcept _) fun candidates => ?_
        refine Task.discloses_bind (Task.discloses_ofBreakdown _) fun ranked => ?_
        refine Task.discloses_bind (Task.discloses_ask (counts _) rfl) fun _ => ?_
        apply Task.discloses_pure
        -- The mark is put together from what was looked up on the way and the context's own.
        intro complete
        rw [Bool.and_eq_true] at complete
        exact ⟨complete.2, rfl, rfl, complete.1⟩

theorem computePage_discloses {query : FeedQuery R} (own : query.identity = reader) :
    (service.computePage (C := C) query).Discloses contract spares (fun page => page.2 = true)
      True := by
  unfold computePage
  rw [own]
  refine Task.discloses_bind (loadContext_discloses carries) fun context => ?_
  refine Task.discloses_bind (profileWeights_discloses carries.counts _) fun weights => ?_
  refine Task.discloses_bind (Task.discloses_ofRefusal _) fun weights => ?_
  split
  · exact Task.discloses_pure fun complete => by cases complete
  · refine Task.discloses_bind (Task.discloses_ofExcept _) fun interest => ?_
    cases interest with
    | none =>
      exact Task.discloses_bind (Task.discloses_ask (carries.counts _) rfl) fun _ =>
        Task.discloses_pure fun complete => by cases complete
    | some interest => exact computeFrom_discloses carries query context weights interest

end

section

variable {requester : Text} (carries : contract.CarriesSimilar service requester)

include carries

theorem computeNeighbours_discloses (query : SimilarQuery) (following : Option IdSet)
    (blocked : IdSet) (vector : Tensor C) {intact : Prop} (whole : intact) :
    (service.computeNeighbours query following blocked vector).Discloses contract spares
      (fun list => list.isSome = true) intact := by
  have counts := carries.counts
  have search (vector : Embedding C) : Task.Obeys contract
      (findNeighbours vector query.limit blocked [query.post] : Task C R (List (Neighbour C R))) :=
    carries.neighbours ..
  refine Task.discloses_bind (Task.discloses_part counts
    (Task.isStrict_bind (Task.isStrict_ofExcept _) fun _ => findNeighbours_isStrict trivial)
    (Task.yields_bind (P := fun _ => True) (Task.yields_ofExcept fun _ _ => trivial)
      fun direction _ => search direction)) fun found => ?_
  cases found with
  | none => exact Task.discloses_pure fun some => by cases some
  | some found =>
    dsimp only
    split
    · exact Task.discloses_pure fun some => by cases some
    · refine Task.discloses_bind (Task.discloses_part counts (fetchPosts_isStrict fun _ => trivial)
        (carries.posts _)) fun posts => ?_
      cases posts with
      | none => exact Task.discloses_pure fun some => by cases some
      | some posts =>
        refine Task.discloses_bind (Task.discloses_part counts
          (fetchAuthors_isStrict fun _ => trivial) (carries.authors _))
          fun authors => ?_
        cases authors with
        | none => exact Task.discloses_pure fun some => by cases some
        | some authors =>
          refine Task.discloses_bind (Task.discloses_ofExcept _) fun scored => ?_
          exact Task.discloses_pure fun _ => ⟨rfl, rfl, rfl, whole⟩

/-- A list of similar posts is only made if nothing was lost but the follows or the stored
vector. -/
theorem computeSimilar_discloses {query : SimilarQuery} (own : query.requester = requester)
    (follows : spares (Query.following requester : Query R).name) (vectors : spares retrievalName) :
    (service.computeSimilar (C := C) query).Discloses contract spares
      (fun list => list.isSome = true) True := by
  have counts := carries.counts
  have attempt {α : Type} {part : Part} {task : Task C R α}
      (strict : task.IsStrict fun _ => True) (obeys : task.Obeys contract) :
      (Task.attempt part task).Discloses contract spares (fun found => found.isSome = true) True :=
    Task.discloses_attempt counts (Task.discloses_of_strict strict obeys)
  -- Whether these two look-ups were lost is not asked, so they have to be spared.
  have stored : Task.Discloses contract spares (fun _ => True)
      (Task.attempt .candidates (fetchVectors [query.post] : Task C R (List (Text × Embedding C))))
      True :=
    Task.discloses_spared counts (fetchVectors_isStrict rfl) vectors (carries.vectors [query.post])
  have following : Task.Discloses contract spares (fun _ => True)
      (Task.attempt .follows (service.loadFollowing requester : Task C R IdSet)) True :=
    Task.discloses_spared counts (loadFollowing_isStrict rfl) follows carries.following
  unfold computeSimilar
  rw [own]
  refine Task.discloses_bind
    (Task.discloses_both (attempt (fetchPosts_isStrict fun _ => trivial) (carries.posts _)) <|
    Task.discloses_both stored <|
    Task.discloses_both following (attempt (loadBlocked_isStrict trivial) carries.blocked)) ?_
  rintro ⟨source, stored, following, blocked⟩
  cases source with
  | none => exact Task.discloses_pure fun some => by cases some
  | some posts =>
    cases blocked with
    | none => exact Task.discloses_pure fun some => by cases some
    | some blocked =>
      dsimp only
      split
      · refine Task.discloses_bind (Task.discloses_part counts
          (fetchAuthors_isStrict fun _ => trivial) (carries.authors _))
          fun authors => ?_
        cases authors with
        | none => exact Task.discloses_pure fun some => by cases some
        | some authors =>
          dsimp only
          split
          · split
            · exact Task.discloses_pure fun some => by cases some
            · exact computeNeighbours_discloses carries query following blocked _
                ⟨rfl, rfl, trivial, trivial, rfl⟩
          · exact Task.discloses_pure fun some => by cases some
      · exact Task.discloses_pure fun some => by cases some

end

end Service

end PersonalFeed
