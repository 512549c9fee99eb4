import PersonalFeed.Proofs.Entries.Settling

/-!
Loads from a cache of well-shaped values. Each part of what a request has to know is the one that is
cached or, where nothing is found, the one of the store, and either can be worked with.
-/

set_option autoImplicit false

namespace PersonalFeed

variable {C R α : Type} [Score R] [Component C R]

/-- The profile that a request goes by: the cached one or, where nothing is found, the stored
one. -/
def Deployment.profileFor (root : Text) (deployment : Deployment C R) (identity : Text) :
    Option (Profile R) :=
  match deployment.cache.found? root (.profile identity) with
  | some value => (Profile.ofJson value).toOption.join
  | none => (deployment.tables.user? identity).map UserRow.profile

def Json.ReadsInterest (C : Type) {R : Type} [Score R] [Component C R] (stored : Json R) : Prop :=
  ∃ interest : Option (Embedding C), Service.readInterest stored = .ok interest ∧
    ∀ vector, interest = some vector → Index.checkVector vector = .ok ()

structure FeedContext.IsUsable (C : Type) [Component C R] (context : FeedContext R) : Prop where
  interest : ∀ stored, context.interest.join = some stored → stored.ReadsInterest C
  blocked : ∃ ids, context.blocked = some (.ids ids)
  seen : (context.seen.getD []).IsZoned
  profile : ∀ profile, context.profile? = some profile → profile.IsUsable

namespace Service

open Deployment

variable {service : Service R} {deployment : Deployment C R} {kinds later : List Artifact}

section

variable {key : CacheKey} (written : (service.key key).toString? ≠ none)

include written

/-- What follows a look-up goes on from a value in the shape of its kind or from none. -/
theorem cached_bind_settles (inside : key.artifact ∈ kinds)
    (shaped : deployment.cache.IsShapedAt C service.root key) {f : Option (Json R) → Task C R α}
    {P : α → Prop}
    (hit : ∀ value, deployment.cache.found? service.root key = some value →
      value.HasShape C key.artifact →
      deployment.Settles service.root kinds (f (some value)) later P)
    (miss : deployment.cache.found? service.root key = none →
      deployment.Settles service.root kinds (f none) later P) :
    deployment.Settles service.root kinds (service.cached key >>= f) later P := by
  obtain ⟨s, encoded⟩ := Option.ne_none_iff_exists'.1 written
  obtain ⟨found, read, shape⟩ := shaped s encoded
  have finds : deployment.cache.found? service.root key = found := by
    have named : (key.text service.root).toString? = some s := encoded
    rw [CacheStore.found?, named, Option.bind_some, read]
    rfl
  refine settles_bind (settles_cached inside encoded read) ?_
  rintro found rfl
  cases found with
  | none => exact miss finds
  | some value => exact hit value finds (shape value rfl)

theorem keep_settles (outside : key.artifact ∉ kinds) (value : Json R) :
    deployment.Settles service.root kinds (service.keep key value : Task C R Unit) kinds
      fun _ => True := by
  obtain ⟨s, encoded⟩ := Option.ne_none_iff_exists'.1 written
  exact settles_keep outside encoded value

/-- A set of ids is loaded, whatever order and repetition it is cached in. -/
theorem loadIds_settles (outside : key.artifact ∉ later)
    (shaped : deployment.cache.IsShapedAt C service.root key)
    (texts : ∀ value : Json R, value.HasShape C key.artifact → ∃ ids, value = .ofTexts ids)
    {load : Task C R (List Text)} (loads : deployment.Settles service.root later load later
      fun _ => True) :
    deployment.Settles service.root (key.artifact :: later) (service.loadIds key load) later
      fun set => ∃ ids, set = .ids ids := by
  have fewer : later ⊆ key.artifact :: later := List.subset_cons_self _ _
  refine cached_bind_settles written List.mem_cons_self shaped (fun value _ shape => ?_) fun _ => ?_
  · obtain ⟨ids, rfl⟩ := texts value shape
    exact settles_fewer (settles_ofBreakdown (IdSet.ofJson_texts ids) ⟨_, rfl⟩) fewer
  · refine settles_forget fewer (settles_bind loads fun ids _ => ?_)
    exact settles_bind (keep_settles written outside _) fun _ _ => settles_pure ⟨_, rfl⟩

end

variable {identity : Text} (root : service.root.isWhole = true) (whole : identity.isWhole = true)

include root whole

theorem loadFollowing_settles (outside : Artifact.follows ∉ later)
    (shaped : deployment.cache.IsShapedAt C service.root (.follows identity)) :
    deployment.Settles service.root (.follows :: later) (service.loadFollowing identity) later
      fun set => ∃ ids, set = .ids ids := by
  have written := written_of_whole (.follows identity) root (single_isWhole whole)
  refine loadIds_settles written outside shaped ?_ ?_
  · intro value shape
    cases shape with
    | follows ids => exact ⟨ids, rfl⟩
  · have flawless : (Query.following identity : Query R).flaw? = none :=
      columnFlaw?_eq_none (single_isWhole whole) rfl
    exact settles_mono (settles_query rfl flawless rfl) fun _ _ => trivial

theorem loadBlocked_settles (outside : Artifact.blocks ∉ later)
    (shaped : deployment.cache.IsShapedAt C service.root (.blocks identity)) :
    deployment.Settles service.root (.blocks :: later) (service.loadBlocked identity) later
      fun set => ∃ ids, set = .ids ids := by
  have written := written_of_whole (.blocks identity) root (single_isWhole whole)
  refine loadIds_settles written outside shaped ?_ ?_
  · intro value shape
    cases shape with
    | blocks ids => exact ⟨ids, rfl⟩
  · have flawless : (Query.blocked identity : Query R).flaw? = none :=
      columnFlaw?_eq_none (single_isWhole whole) rfl
    exact settles_mono (settles_query rfl flawless rfl) fun _ _ => trivial

theorem loadTopics_settles (ready : service.IsSound) (sound : deployment.IsSound)
    (outside : Artifact.topics ∉ later)
    (shaped : deployment.cache.IsShapedAt C service.root (.topics identity)) :
    deployment.Settles service.root (.topics :: later) (service.loadTopics (C := C) identity) later
      fun _ => True := by
  have written := written_of_whole (.topics identity) root (single_isWhole whole)
  refine settles_mono (loadIds_settles written outside shaped ?_ ?_) fun _ _ => trivial
  · intro value shape
    cases shape with
    | topics ids => exact ⟨ids, rfl⟩
  · let limit := service.config.ranking.recentSavesLimit
    have flawless : (Query.recentSaves identity limit : Query R).flaw? = none :=
      columnFlaw?_eq_none (single_isWhole whole) (by simpa using ready.history)
    refine settles_bind_exact (settles_query rfl flawless rfl) ?_
    obtain ⟨posts, read⟩ : ∃ posts : List (Post C),
        (deployment.tables.recentSaves identity limit).mapM PostRow.post = .ok posts :=
      Tables.posts_isOk sound.tables fun row member => Tables.mem_recentSaves member
    exact settles_bind (P := fun _ => True) (settles_ofBreakdown read trivial) fun _ _ =>
      settles_pure trivial

theorem loadSeen_settles (ready : service.IsSound) (outside : Artifact.seen ∉ later)
    (shaped : deployment.cache.IsShapedAt C service.root (.seen identity)) :
    deployment.Settles service.root (.seen :: later) (service.loadSeen identity) later
      SeenMap.IsZoned := by
  have written := written_of_whole (.seen identity) root (single_isWhole whole)
  have fewer : later ⊆ Artifact.seen :: later := List.subset_cons_self _ _
  refine cached_bind_settles written List.mem_cons_self shaped (fun value _ shape => ?_) fun _ => ?_
  · obtain ⟨seen, read, zoned⟩ := SeenMap.ofJson_of_hasShape shape
    exact settles_fewer (settles_ofBreakdown read zoned) fewer
  · obtain ⟨since, started⟩ := ready.window
    have flawless : (Query.seen identity since : Query R).flaw? = none :=
      columnFlaw?_eq_none (single_isWhole whole) rfl
    refine settles_forget fewer (settles_bind_exact (settles_ofBreakdown started rfl) ?_)
    refine settles_bind (settles_query rfl flawless rfl) fun marks _ => ?_
    exact settles_bind (keep_settles written outside _) fun _ _ =>
      settles_pure (SeenMap.isZoned_ofMarks marks)

theorem loadProfile_settles (outside : Artifact.profile ∉ later)
    (shaped : deployment.cache.IsShapedAt C service.root (.profile identity))
    (usable : ∀ profile, (deployment.tables.user? identity).map UserRow.profile = some profile →
      profile.IsUsable) :
    deployment.Settles service.root (.profile :: later) (service.loadProfile identity) later
      fun found => found = deployment.profileFor service.root identity ∧
        ∀ profile, found = some profile → profile.IsUsable := by
  have written := written_of_whole (.profile identity) root (single_isWhole whole)
  have fewer : later ⊆ Artifact.profile :: later := List.subset_cons_self _ _
  refine cached_bind_settles written List.mem_cons_self shaped (fun value finds shape => ?_)
    fun finds => ?_
  -- What is cached has the shape of a profile and so is read as one.
  · obtain ⟨found, read, each⟩ := Profile.ofJson_of_hasShape shape
    refine settles_fewer (settles_ofBreakdown read ⟨?_, each⟩) fewer
    rw [profileFor, finds]
    dsimp only
    rw [read]
    rfl
  -- Nothing is cached, so what the tables tell is loaded, kept and given.
  · have flawless : (Query.profile identity : Query R).flaw? = none :=
      columnFlaw?_eq_none (single_isWhole whole) rfl
    refine settles_forget fewer (settles_bind_exact (settles_query rfl flawless rfl) ?_)
    refine settles_bind (keep_settles written outside _) fun _ _ => settles_pure ⟨?_, usable⟩
    rw [profileFor, finds]

theorem loadInterest_settles (outside : Artifact.interestVector ∉ later)
    (shaped : deployment.cache.IsShapedAt C service.root (.interestVector identity))
    (reads : ∀ value : Json R, value.HasShape C .interestVector → value.ReadsInterest C)
    (stored : ∀ components, (deployment.tables.user? identity).bind UserRow.interestVector =
      some components → (Json.array components).ReadsInterest C) :
    deployment.Settles service.root (.interestVector :: later) (service.loadInterest identity) later
      fun found => ∀ value, found = some value → value.ReadsInterest C := by
  have written := written_of_whole (.interestVector identity) root (single_isWhole whole)
  have fewer : later ⊆ Artifact.interestVector :: later := List.subset_cons_self _ _
  refine cached_bind_settles written List.mem_cons_self shaped (fun value _ shape => ?_) fun _ => ?_
  -- A cached interest is given as it is found. It is only read later, so its shape is passed on.
  · refine settles_fewer (settles_pure fun other same => ?_) fewer
    cases same
    exact reads value shape
  · have flawless : (Query.interestVector identity : Query R).flaw? = none :=
      columnFlaw?_eq_none (single_isWhole whole) rfl
    refine settles_forget fewer (settles_bind (settles_query rfl flawless rfl) ?_)
    rintro found same
    cases found with
    | none => exact settles_pure fun _ some => by cases some
    | some components =>
      refine settles_bind (keep_settles written outside _) fun _ _ =>
        settles_pure fun value found => ?_
      cases found
      exact stored components same.symm

variable (ready : service.IsSound) (sound : deployment.IsSound)
variable (shaped : ∀ key : CacheKey, key.Feeds identity →
  deployment.cache.IsShapedAt C service.root key)
variable (usable : ∀ profile, (deployment.tables.user? identity).map UserRow.profile =
  some profile → profile.IsUsable)
variable (reads : ∀ value : Json R, value.HasShape C .interestVector → value.ReadsInterest C)
variable (stored : ∀ components, (deployment.tables.user? identity).bind UserRow.interestVector =
  some components → (Json.array components).ReadsInterest C)

include ready sound shaped usable reads stored

theorem loadContext_settles :
    deployment.Settles service.root
      [.interestVector, .follows, .blocks, .seen, .topics, .profile]
      (service.loadContext (C := C) identity) []
      fun context => context.IsUsable C ∧
        context.profile? = deployment.profileFor service.root identity := by
  -- Each load needs its own kind and those of the loads after it, so what it stores is not met again.
  refine settles_bind (settles_both
    (settles_attempt _ (loadInterest_settles root whole (by decide) (shaped _ rfl) reads stored)) <|
    settles_both (settles_attempt _ (loadFollowing_settles root whole (by decide)
      (shaped _ rfl))) <|
    settles_both (settles_attempt _ (loadBlocked_settles root whole (by decide) (shaped _ rfl))) <|
    settles_both (settles_attempt _ (loadSeen_settles root whole ready (by decide)
      (shaped _ rfl))) <|
    settles_both (settles_attempt _ (loadTopics_settles root whole ready sound (by decide)
      (shaped _ rfl)))
      (settles_attempt _ (loadProfile_settles root whole (by decide) (shaped _ rfl) usable))) ?_
  rintro ⟨interest, following, blocked, seen, topics, profile⟩ ⟨⟨vector, rfl, readable⟩, -,
    ⟨_, rfl, blocks⟩, ⟨marks, rfl, zoned⟩, -, found, rfl, same, each⟩
  obtain ⟨ids, rfl⟩ := blocks
  exact settles_pure ⟨⟨readable, ⟨ids, rfl⟩, zoned, each⟩, same⟩

end Service

end PersonalFeed
