import PersonalFeed.Proofs.Coherence.Deletions

/-!
What a change of the tables makes stale. A cached value stays right as long as the queries that it
is made of are answered as before, and the event of a change covers every key with a query that the
change touches.
-/

set_option autoImplicit false

namespace PersonalFeed

variable {C R : Type} [Score R] [Component C R]

namespace Service

variable {service : Service R} {answers answers' : Answers C R}

/-- A cached value is right as long as the queries that it is made of have their answers. -/
theorem isRight_congr (cold : answers.IsCold) (cold' : answers'.IsCold)
    (dated : ReadsMarks answers) (search : answers.SearchAlike answers') {key : CacheKey}
    {value : Json R} (right : service.IsRight answers key value)
    (agree : ∀ query, service.dependsOn key query →
      answers' (.query query) = answers (.query query)) :
    service.IsRight answers' key value := by
  -- A copy of a row has its query; what was computed has all that it asks for, as its contract
  -- allows nothing else.
  cases right with
  | interestVector stored => exact .interestVector ((agree _ rfl).trans stored)
  | follows stored => exact .follows ((agree _ rfl).trans stored)
  | blocks stored => exact .blocks ((agree _ rfl).trans stored)
  | seen start stored => exact .seen start ((agree (.seen _ _) ⟨rfl, start⟩).trans stored)
  | topics stored read => exact .topics ((agree _ rfl).trans stored) read
  | profile stored => exact .profile ((agree _ rfl).trans stored)
  | @page request query fingerprint response checked made computed =>
    have tracks : (service.computePage (C := C) query).Tracks
        (coherenceTerms service answers (service.asksForFeed query.identity)
          fun _ => False).contract answers False :=
      computePage_tracks cold dated (fun _ _ => id) rfl
    exact .page checked made ((eval_of_agree cold cold' search agree tracks).trans computed)
  | @similar query response computed =>
    have tracks : (service.computeSimilar (C := C) query).Tracks
        (coherenceTerms service answers (asksForSimilar query.requester)
          fun _ => False).contract answers False :=
      computeSimilar_tracks cold (fun _ _ => id) rfl
    exact .similar ((eval_of_agree cold cold' search agree tracks).trans computed)

end Service

namespace Deployment

variable {deployment : Deployment C R} {service : Service R} {doomed touched : CacheKey → Prop}

theorem searchAlike_withTables (deployment : Deployment C R) (tables : Tables R) :
    deployment.answers.SearchAlike { deployment with tables := tables }.answers where
  search query limit exclusion := by rw [answers_search, answers_search]
  retrieve ids := by rw [answers_retrieve, answers_retrieve]

/-- A deployment whose tables change stays coherent, but for the values that are made of touched
queries. -/
theorem IsCoherent.withTables (coherent : deployment.IsCoherent service doomed)
    {tables : Tables R} (dated : tables.IsDated)
    (agree : ∀ key, ¬ touched key → ∀ query, service.dependsOn key query →
      deployment.tables.Agree tables query) :
    ({ deployment with tables := tables } : Deployment C R).IsCoherent service
      fun key => doomed key ∨ touched key where
  quiet := coherent.quiet
  on := coherent.on
  dated := dated
  cache := by
    refine CacheStore.holds_mono coherent.cache fun key value valid => ?_
    rcases valid with right | gone
    · by_cases stale : touched key
      · exact .inr (.inr stale)
      · refine .inl (Service.isRight_congr (isCold_answers _) (isCold_answers _)
          (readsMarks coherent.dated) (searchAlike_withTables _ _) right fun query asked => ?_)
        · rw [answers_query, answers_query]
          exact congrArg outcome (agree key stale query asked)
    · exact .inr (.inl gone)

end Deployment

namespace Service

omit [Score R] [Component C R]

variable {service : Service R} {key : CacheKey} {identity : Text}

theorem isReading_of_dependsOn {query : Query R} (asked : service.dependsOn key query) :
    query.isReading = true := by
  cases key <;> cases query <;> first | rfl | cases asked

theorem dependents_of_following (asked : service.dependsOn key (.following identity)) :
    key = .follows identity ∨ key.IsPageOf identity ∨ key.IsListFor identity := by
  cases key <;> cases asked
  · exact .inl rfl
  · exact .inr (.inl ⟨_, _, _, rfl⟩)
  · exact .inr (.inr ⟨_, _, rfl⟩)

theorem dependents_of_blocked (asked : service.dependsOn key (.blocked identity)) :
    key = .blocks identity ∨ key.IsPageOf identity ∨ key.IsListFor identity := by
  cases key <;> cases asked
  · exact .inl rfl
  · exact .inr (.inl ⟨_, _, _, rfl⟩)
  · exact .inr (.inr ⟨_, _, rfl⟩)

theorem dependents_of_recentSaves {limit : Int}
    (asked : service.dependsOn key (.recentSaves identity limit)) :
    key = .topics identity ∨ key.IsPageOf identity := by
  cases key with
  | topics owner =>
    cases asked
    exact .inl rfl
  | page owner fingerprint size cursor =>
    obtain ⟨rfl, -⟩ := asked
    exact .inr ⟨_, _, _, rfl⟩
  | interestVector | follows | blocks | seen | profile | similar => cases asked

theorem dependents_of_seen {since : Timestamp}
    (asked : service.dependsOn key (.seen identity since)) :
    key = .seen identity ∨ key.IsPageOf identity := by
  cases key with
  | seen owner =>
    obtain ⟨rfl, -⟩ := asked
    exact .inl rfl
  | page owner fingerprint size cursor =>
    obtain ⟨rfl, -⟩ := asked
    exact .inr ⟨_, _, _, rfl⟩
  | interestVector | follows | blocks | topics | profile | similar => cases asked

theorem owner_of_blocked (asked : service.dependsOn key (.blocked identity)) :
    key.owner = identity := by
  cases key <;> cases asked <;> rfl

theorem not_dependsOn_interestSources {limit : Int} :
    ¬ service.dependsOn key (.interestSources identity limit) := by
  intro asked
  cases key <;> cases asked

theorem dependents_of_interestVector (asked : service.dependsOn key (.interestVector identity)) :
    key = .interestVector identity ∨ key.IsPageOf identity := by
  cases key <;> cases asked
  · exact .inl rfl
  · exact .inr ⟨_, _, _, rfl⟩

theorem dependents_of_authors {ids : List Text} (asked : service.dependsOn key (.authors ids)) :
    key.IsPageOf key.owner ∨ key.IsListFor key.owner := by
  cases key with
  | page owner fingerprint size cursor => exact .inl ⟨_, _, _, rfl⟩
  | similar post owner limit => exact .inr ⟨_, _, rfl⟩
  | interestVector | follows | blocks | seen | topics | profile => cases asked

end Service

namespace Deletion

variable {key : CacheKey} {identity : Text} {given : Option Text}

theorem covers_page (page : key.IsPageOf identity) (covers : given = none ∨ given = some identity) :
    (pages given).Covers key := by
  obtain ⟨fingerprint, size, cursor, rfl⟩ := page
  exact covers

theorem covers_list (list : key.IsListFor identity)
    (covers : given = none ∨ given = some identity) : (similar given).Covers key := by
  obtain ⟨post, limit, rfl⟩ := list
  exact covers

section

variable {set : CacheKey} {deletions : List Deletion}
variable (sets : ∃ keys, .keys keys ∈ deletions ∧ set ∈ keys)
variable (dropsPages : .pages (some identity) ∈ deletions)

include sets dropsPages

theorem covers_set_or_page (depends : key = set ∨ key.IsPageOf identity) :
    ∃ deletion ∈ deletions, deletion.Covers key := by
  rcases depends with rfl | page
  · obtain ⟨keys, member, inside⟩ := sets
    exact ⟨_, member, inside⟩
  · exact ⟨_, dropsPages, covers_page page (.inr rfl)⟩

theorem covers_set_or_answer (dropsLists : .similar (some identity) ∈ deletions)
    (depends : key = set ∨ key.IsPageOf identity ∨ key.IsListFor identity) :
    ∃ deletion ∈ deletions, deletion.Covers key := by
  rcases depends with same | page | list
  · exact covers_set_or_page sets dropsPages (.inl same)
  · exact covers_set_or_page sets dropsPages (.inr page)
  · exact ⟨_, dropsLists, covers_list list (.inr rfl)⟩

end

end Deletion

theorem Event.mem_parties {kind : EventKind} {actor target : Text} {post : Option Text}
    {party : Text} (side : party = actor ∨ party = target) (named : party.isEmpty = false) :
    party ∈ (Event.mk kind actor (some target) post).parties := by
  unfold parties
  rcases side with rfl | rfl
  · dsimp only
    split <;> exact List.mem_cons_self
  · simp [named]

omit [Score R] in
/-- The event of a change covers every key that is made of a query which the change touches. Nobody
without a name has a feed. -/
theorem Change.covers_of_touches {service : Service R} {change : Change} {key : CacheKey}
    {query : Query R} (asked : service.dependsOn key query) (touched : change.Touches query)
    (named : key.owner.isEmpty = false) :
    ∃ deletion ∈ change.event.deletions, deletion.Covers key := by
  -- A follow and each side of a block drop a set, the pages and the lists of one person. A save
  -- and a mark drop a set and the pages.
  cases change with
  | addFollow edge | removeFollow edge =>
    cases touched
    refine Deletion.covers_set_or_answer ⟨[.follows edge.1], ?_, ?_⟩ ?_ ?_
      (Service.dependents_of_following asked) <;> simp [event, Event.deletions]
  | addBlock edge | removeBlock edge =>
    obtain ⟨party, side, rfl⟩ : ∃ party, (party = edge.1 ∨ party = edge.2) ∧
        query = .blocked party := by
      rcases touched with rfl | rfl
      · exact ⟨_, .inl rfl, rfl⟩
      · exact ⟨_, .inr rfl, rfl⟩
    have depends := Service.dependents_of_blocked asked
    rw [Service.owner_of_blocked asked] at named
    have inside := @Event.mem_parties .blockChanged edge.1 edge.2 none party side named
    refine Deletion.covers_set_or_answer ⟨_, List.mem_cons_self, List.mem_map_of_mem inside⟩
      ?_ ?_ depends
    · exact List.mem_cons_of_mem _ (List.mem_flatMap.2 ⟨party, inside, by simp⟩)
    · exact List.mem_cons_of_mem _ (List.mem_flatMap.2 ⟨party, inside, by simp⟩)
  | addSave mark =>
    obtain ⟨limit, rfl | rfl⟩ := touched
    · refine Deletion.covers_set_or_page ⟨[.topics mark.user], ?_, ?_⟩ ?_
        (Service.dependents_of_recentSaves asked) <;> simp [event, Event.deletions]
    · exact (Service.not_dependsOn_interestSources asked).elim
  | removeSave touch =>
    obtain ⟨limit, rfl | rfl⟩ := touched
    · refine Deletion.covers_set_or_page ⟨[.topics touch.1], ?_, ?_⟩ ?_
        (Service.dependents_of_recentSaves asked) <;> simp [event, Event.deletions]
    · exact (Service.not_dependsOn_interestSources asked).elim
  | addSeen mark =>
    obtain ⟨since, rfl⟩ := touched
    refine Deletion.covers_set_or_page ⟨[.seen mark.user], ?_, ?_⟩ ?_
      (Service.dependents_of_seen asked) <;> simp [event, Event.deletions]
  | removeSeen touch =>
    obtain ⟨since, rfl⟩ := touched
    refine Deletion.covers_set_or_page ⟨[.seen touch.1], ?_, ?_⟩ ?_
      (Service.dependents_of_seen asked) <;> simp [event, Event.deletions]
  | setPrivate identity isPrivate =>
    obtain ⟨ids, rfl⟩ := touched
    rcases Service.dependents_of_authors asked with page | list
    · exact ⟨.pages none, by simp [event, Event.deletions], Deletion.covers_page page (.inl rfl)⟩
    · exact ⟨.similar none, by simp [event, Event.deletions], Deletion.covers_list list (.inl rfl)⟩

end PersonalFeed
