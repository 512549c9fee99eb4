import PersonalFeed.Proofs.Cache.Lookups
import PersonalFeed.Proofs.Program.Losses
import PersonalFeed.Service.Similar

/-!
Every load of a request is strict: a part that a store fails to give is neither made up nor cached.
-/

set_option autoImplicit false

namespace PersonalFeed.Service

variable {C R : Type} {asks : String → Prop} {service : Service R}

theorem encoded_isStrict (text : Text) :
    (Task.encoded text : Task C R String).IsStrict asks := by
  unfold Task.encoded
  split <;> trivial

theorem countLookup_isStrict (key : Text) (result : LookupResult) :
    (service.countLookup key result : Task C R Unit).IsStrict asks :=
  Task.isStrict_ask rfl

theorem cached_isStrict [Numeral R] (key : CacheKey) :
    (service.cached key : Task C R _).IsStrict asks := by
  have counted {result : LookupResult} {found : Option (Json R)} :
      (do service.countLookup (service.key key) result; return found :
        Task C R (Option (Json R))).IsStrict asks :=
    Task.isStrict_bind (countLookup_isStrict _ _) fun _ => trivial
  apply Task.isStrict_bind (encoded_isStrict _)
  intro written
  apply Task.isStrict_bind (Task.isStrict_ask rfl)
  intro reply
  match reply with
  | .off | .absent => exact counted
  | .found entry =>
    dsimp only
    split
    · split
      · trivial
      · exact counted
    · apply Task.isStrict_bind (countLookup_isStrict _ _)
      intro _
      split <;> trivial

theorem keep_isStrict (key : CacheKey) (value : Json R) :
    (service.keep key value : Task C R Unit).IsStrict asks :=
  Task.isStrict_bind (Task.isStrict_ask rfl) fun _ =>
    Task.isStrict_bind (encoded_isStrict _) fun _ => trivial

section

variable [Numeral R]

theorem loadIds_isStrict {key : CacheKey} {load : Task C R (List Text)}
    (strict : load.IsStrict asks) : (service.loadIds key load).IsStrict asks := by
  apply Task.isStrict_bind (cached_isStrict key)
  intro found
  cases found with
  | some value => exact Task.isStrict_ofBreakdown _
  | none =>
    exact Task.isStrict_bind strict fun _ => Task.isStrict_bind (keep_isStrict ..) fun _ => trivial

variable {identity : Text}

theorem loadFollowing_isStrict (asked : asks (Query.following identity : Query R).name) :
    (service.loadFollowing identity : Task C R IdSet).IsStrict asks :=
  loadIds_isStrict (Task.isStrict_query asked)

theorem loadBlocked_isStrict (asked : asks (Query.blocked identity : Query R).name) :
    (service.loadBlocked identity : Task C R IdSet).IsStrict asks :=
  loadIds_isStrict (Task.isStrict_query asked)

theorem loadInterest_isStrict (asked : asks (Query.interestVector identity : Query R).name) :
    (service.loadInterest identity : Task C R _).IsStrict asks := by
  apply Task.isStrict_bind (cached_isStrict _)
  intro found
  cases found with
  | some value => trivial
  | none =>
    apply Task.isStrict_bind (Task.isStrict_query asked)
    intro stored
    cases stored with
    | none => trivial
    | some components => exact Task.isStrict_bind (keep_isStrict ..) fun _ => trivial

theorem loadSeen_isStrict (asked : ∀ since, asks (Query.seen identity since : Query R).name) :
    (service.loadSeen identity : Task C R SeenMap).IsStrict asks := by
  apply Task.isStrict_bind (cached_isStrict _)
  intro found
  cases found with
  | some value => exact Task.isStrict_ofBreakdown _
  | none =>
    refine Task.isStrict_bind (Task.isStrict_ofBreakdown _) fun since => ?_
    refine Task.isStrict_bind (Task.isStrict_query (asked since)) fun marks => ?_
    exact Task.isStrict_bind (keep_isStrict ..) fun _ => trivial

theorem loadProfile_isStrict (asked : asks (Query.profile identity : Query R).name) :
    (service.loadProfile identity : Task C R _).IsStrict asks := by
  apply Task.isStrict_bind (cached_isStrict _)
  intro found
  cases found with
  | some value => exact Task.isStrict_ofBreakdown _
  | none =>
    refine Task.isStrict_bind (Task.isStrict_query asked) fun profile => ?_
    exact Task.isStrict_bind (keep_isStrict ..) fun _ => trivial

theorem loadTopics_isStrict [Component C R]
    (asked : ∀ limit, asks (Query.recentSaves identity limit : Query R).name) :
    (service.loadTopics (C := C) identity).IsStrict asks := by
  apply loadIds_isStrict
  refine Task.isStrict_bind (Task.isStrict_query (asked _)) fun rows => ?_
  exact Task.isStrict_bind (Task.isStrict_ofBreakdown _) fun posts => trivial

theorem fetchPosts_isStrict [Component C R] {ids : List Text}
    (asked : ∀ ids, asks (Query.content ids : Query R).name) :
    (fetchPosts ids : Task C R (List (Post C))).IsStrict asks := by
  unfold fetchPosts
  split
  · trivial
  · exact Task.isStrict_bind (Task.isStrict_query (asked _)) fun _ => Task.isStrict_ofBreakdown _

end

theorem fetchAuthors_isStrict {ids : List Text}
    (asked : ∀ ids, asks (Query.authors ids : Query R).name) :
    (fetchAuthors ids : Task C R (List Author)).IsStrict asks := by
  cases ids with
  | nil => trivial
  | cons id rest => exact Task.isStrict_query (asked _)

theorem findNeighbours_isStrict {query : Embedding C} {limit : Int} {excluded : IdSet}
    {posts : List Text} (asked : asks searchName) :
    (findNeighbours query limit excluded posts :
      Task C R (List (Neighbour C R))).IsStrict asks := by
  unfold findNeighbours
  split
  · trivial
  · refine Task.isStrict_bind (Task.isStrict_ofExcept _) fun exclusion => ?_
    exact Task.isStrict_search asked fun hits => Task.isStrict_ofBreakdown _

theorem fetchVectors_isStrict {ids : List Text} (asked : asks retrievalName) :
    (fetchVectors ids : Task C R (List (Text × Embedding C))).IsStrict asks := by
  unfold fetchVectors
  split
  · trivial
  · refine Task.isStrict_retrieve asked fun hits => ?_
    exact Task.isStrict_bind (Task.isStrict_ofBreakdown _) fun _ => trivial

end PersonalFeed.Service
