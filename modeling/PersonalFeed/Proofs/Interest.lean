import PersonalFeed.Proofs.Coherence.Drops
import PersonalFeed.Proofs.Exposure.Outages
import PersonalFeed.Proofs.Pages.Walk

/-!
The rebuild of an interest vector, whatever operations fail. One that stops leaves the tables and
the cache as they were, and so does one that finds no vector. Any other one stores the direction of
the centroid of exactly the vectors that it counts, and of the cache it drops what was made of the
old one.
-/

set_option autoImplicit false

namespace PersonalFeed

variable {C R α : Type}

theorem Tensor.eq_of_flatRow? {t : Tensor α} {xs : List α} (flat : t.flatRow? = some xs) :
    t = ofList xs := by
  cases t with
  | scalar x => cases flat
  | row entries =>
    rw [flatRow?] at flat
    refine congrArg Tensor.row ?_
    induction entries generalizing xs with
    | nil =>
      cases flat
      rfl
    | cons entry rest ih =>
      rw [List.mapM_cons] at flat
      cases entry with
      | row inner => cases flat
      | scalar x =>
        obtain ⟨first, value, flat⟩ := Option.bind_eq_some_iff.1 flat
        obtain ⟨later, read, same⟩ := Option.bind_eq_some_iff.1 flat
        cases value
        cases same
        rw [List.map_cons, ← ih read]

theorem Embedding.eq_of_flatRow? {t : Tensor C} {v : Embedding C}
    (read : (t.flatRow?.bind fun row => ofArray? row.toArray) = some v) : t = v.toTensor := by
  obtain ⟨xs, flat, made⟩ := Option.bind_eq_some_iff.1 read
  unfold ofArray? at made
  split at made
  · cases made
    exact Tensor.eq_of_flatRow? flat
  · cases made

theorem Embedding.eq_of_rows {entries : List (Tensor C)} {rows : List (Embedding C)}
    (read : (entries.mapM fun row => row.flatRow?.bind fun xs => ofArray? xs.toArray) = some rows) :
    entries = rows.map toTensor := by
  induction entries generalizing rows with
  | nil =>
    cases read
    rfl
  | cons entry rest ih =>
    rw [List.mapM_cons] at read
    obtain ⟨first, head, read⟩ := Option.bind_eq_some_iff.1 read
    obtain ⟨later, tail, same⟩ := Option.bind_eq_some_iff.1 read
    cases same
    rw [List.map_cons, ← ih tail, ← eq_of_flatRow? head]

/-- A centroid is that of flat rows of the right width, and each of them counts. -/
theorem Service.interestOf_ok [Numeral R] [Component C R] {vectors : List (Tensor C)}
    {interest : Embedding C}
    (made : (interestOf vectors : Except (Fault R) (Embedding C)) = .ok interest) :
    ∃ rows : List (Embedding C), vectors = rows.map Embedding.toTensor ∧
      interest = (Embedding.mean rows).normalize := by
  obtain ⟨centre, averaged, rfl⟩ := ok_of_map made
  obtain ⟨rows, read, averaged⟩ := ok_of_bind averaged
  have averaged := ok_of_mapError averaged
  unfold Embedding.centroid at averaged
  split at averaged
  · cases averaged
  · rename_i some
    cases averaged
    refine ⟨rows, ?_, rfl⟩
    -- Of the ways to read a tensor only the one row by row leaves rows to average.
    unfold Embedding.rowsOfTensor at read
    split at read
    · cases read
    · split at read
      · cases read
        exact absurd rfl some
      · split at read
        · rename_i found
          split at read
          · cases read
          · cases read
            exact Embedding.eq_of_rows found
        · cases read

def Hit.usable? (hit : Hit C R) : Option (Embedding C) :=
  hit.vector.bind fun t => t.flatRow?.bind fun row => Embedding.ofArray? row.toArray

theorem Hit.vectors_of_neighbours {hits : List (Hit C R)} {found : List (Neighbour C R)}
    (read : hits.mapM Hit.neighbour = .ok found) :
    (found.filterMap fun neighbour => neighbour.vector.map (neighbour.id, ·)) =
      hits.filterMap fun hit => hit.usable?.map (hit.id, ·) := by
  have related := (mapM_ok_iff _ _ _).1 read
  clear read
  induction related with
  | nil => rfl
  | @cons hit neighbour _ _ first _ ih =>
    obtain ⟨vector, usable, rfl⟩ := ok_of_map first
    -- A hit that was read has the vector that it can be used with, or none.
    have same : hit.usable? = vector := by
      unfold Hit.embedding at usable
      unfold Hit.usable?
      split at usable
      · rename_i none
        rw [none]
        cases usable
        rfl
      · rename_i t some
        rw [some]
        split at usable
        · cases usable
        · cases usable
          rfl
    rw [List.filterMap_cons, List.filterMap_cons, ih, same]

variable [Score R] [Component C R]

namespace Deployment

def reported (deployment : Deployment C R) (posts : List Text) : List (Hit C R) :=
  deployment.fixedRetrieval.getD (deployment.index.retrieve posts.eraseDups)

/-- The vector of one of some posts: the one that the index reports for it, or else the stored
one. -/
def vector? (deployment : Deployment C R) (posts : List Text) (post : Text) : Option (Tensor C) :=
  let usable := (deployment.reported posts).filterMap fun hit => hit.usable?.map (hit.id, ·)
  match Service.vectorFor usable post with
  | some vector => some vector.toTensor
  | none => (deployment.tables.post? post).bind fun row => row.storedEmbedding.toOption.join

/-- Looking at stores that may fail: what is answered is what they hold. -/
def telling (deployment : Deployment C R) : Contract C R where
  allows := looking.allows
  admits
    | .query query, reply => ∀ answer, reply = .answer answer →
      ∃ after, query.run deployment.tables = .ok (answer, after)
    | .retrieve ids, reply => ∀ hits, reply = .answer hits →
      hits = deployment.fixedRetrieval.getD (deployment.index.retrieve ids)
    | _, _ => True

variable {deployment : Deployment C R}

theorem keptBy_telling :
    deployment.telling.KeptBy reply fun other =>
      ∃ rules, other = { deployment with rules := rules } := by
  rintro call other spent allowed
  have kept : ∀ rules, ∃ later, ({ other with rules := rules } : Deployment C R) =
      { deployment with rules := later } := by
    obtain ⟨_, rfl⟩ := spent
    exact fun rules => ⟨rules, rfl⟩
  have tables : other.tables = deployment.tables := by
    obtain ⟨_, rfl⟩ := spent
    rfl
  cases call with
  | query query =>
    constructor
    · intro answer answered
      obtain ⟨after, ran⟩ := run_of_answer answered
      exact ⟨after, tables ▸ ran⟩
    · refine guarded_preserves (P := fun other : Deployment C R =>
        ∃ rules, other = { deployment with rules := rules }) kept ?_
      rintro _ ⟨rules, rfl⟩
      dsimp only
      split
      · rename_i answer after ran
        have same := Query.tables_of_reading allowed ran
        subst same
        exact ⟨rules, rfl⟩
      · exact ⟨rules, rfl⟩
  -- What was retrieved is fixed or that of the index, and rules play no part in either.
  | retrieve ids =>
    constructor
    · intro hits answered
      obtain ⟨rules, acted⟩ := guarded_answer answered
      obtain ⟨_, rfl⟩ := spent
      cases fixed : deployment.fixedRetrieval with
      | some given =>
        simp only [fixed] at acted
        exact (Except.ok.inj acted).symm
      | none =>
        simp only [fixed] at acted
        exact (Except.ok.inj acted).symm
    · refine guarded_preserves (P := fun other : Deployment C R =>
        ∃ rules, other = { deployment with rules := rules }) kept ?_
      rintro _ ⟨rules, rfl⟩
      dsimp only
      split <;> exact ⟨rules, rfl⟩
  | search | index | openIndex | read | write | delete | scan | count => exact allowed.elim

theorem perform_telling {task : Task C R α} {P : α → Prop}
    (tells : task.Yields deployment.telling P) :
    ∃ result rules, deployment.perform task = (result, { deployment with rules := rules }) ∧
      ∀ value, result = .ok value → P value := by
  obtain ⟨holds, rules, spent⟩ := Program.meets_run keptBy_telling tells deployment
    ⟨deployment.rules, rfl⟩
  exact ⟨_, rules, Prod.ext rfl spent, holds⟩

theorem reply_query_cases (deployment : Deployment C R) (query : Query R) :
    ∃ rules, (∃ failure : Failure, reply (.query query) deployment =
        (failure.outcome, { deployment with rules := rules })) ∨
      reply (.query query) deployment =
        match query.run deployment.tables with
        | .ok (answer, tables) => (.answer answer, { deployment with rules, tables })
        | .error cause => (.broken cause, { deployment with rules }) := by
  unfold reply
  obtain ⟨rules, failed | replied⟩ := guarded_cases query.name _ deployment
  · exact ⟨rules, .inl failed⟩
  · refine ⟨rules, .inr (replied.trans ?_)⟩
    dsimp only
    cases query.run deployment.tables <;> rfl

theorem perform_query_cases (deployment : Deployment C R) (query : Query R) :
    ∃ rules, (∃ stop, deployment.perform (Task.query query) =
        (.error stop, { deployment with rules := rules })) ∨
      ∃ answer after, query.run deployment.tables = .ok (answer, after) ∧
        deployment.perform (Task.query query) =
          (.ok answer, { deployment with rules := rules, tables := after }) := by
  let ended (pair : Outcome query.Answer × Deployment C R) : Except (Stop R) query.Answer ×
      Deployment C R := pair.2.perform (Task.answer Task.databaseName pair.1)
  have asked : deployment.perform (Task.query query) = ended (reply (.query query) deployment) :=
    rfl
  obtain ⟨rules, ⟨failure, replied⟩ | replied⟩ := reply_query_cases deployment query
  · refine ⟨rules, .inl ?_⟩
    rw [asked, replied]
    cases failure <;> exact ⟨_, rfl⟩
  · refine ⟨rules, ?_⟩
    rw [asked, replied]
    cases ran : query.run deployment.tables with
    | error cause => exact .inl ⟨_, rfl⟩
    | ok pair => exact .inr ⟨pair.1, pair.2, rfl, rfl⟩

/-- An order to the tables is carried out, or it fails and changes nothing. -/
theorem perform_order_cases (deployment : Deployment C R) (name : String) (query : Query R) :
    ∃ rules, (∃ stop, deployment.perform (Task.bounded name (Task.query query)) =
        (.error stop, { deployment with rules := rules })) ∨
      ∃ answer after, query.run deployment.tables = .ok (answer, after) ∧
        deployment.perform (Task.bounded name (Task.query query)) =
          (.ok answer, { deployment with rules := rules, tables := after }) := by
  obtain ⟨rules, ⟨stop, ended⟩ | ⟨answer, after, ran, ended⟩⟩ :=
    perform_query_cases deployment query
  · refine ⟨rules, .inl ?_⟩
    cases stop with
    | fault cause => exact ⟨_, perform_bounded ended fun same => by cases same⟩
    | silence =>
      refine ⟨.fault (.outage name "timed out"), ?_⟩
      unfold perform run at *
      rw [Task.bounded, ExceptT.run_mk, Program.run_bind, ended]
      rfl
  · exact ⟨rules, .inr ⟨answer, after, ran, perform_bounded ended fun same => by cases same⟩⟩

end Deployment

namespace Service

open Deployment

variable {deployment : Deployment C R}

omit [Component C R] in
theorem fetchVectors_tells (posts : List Text) :
    (fetchVectors posts : Task C R _).Yields deployment.telling fun vectors =>
      ∀ post ∈ posts, vectorFor vectors post = vectorFor
        ((deployment.reported posts).filterMap fun hit => hit.usable?.map (hit.id, ·)) post := by
  unfold fetchVectors
  split
  · rename_i none
    rw [List.isEmpty_iff.1 none]
    exact Task.yields_pure fun post member => absurd member List.not_mem_nil
  · refine Task.yields_bind (Task.yields_ask trivial fun _ told => told) fun reply told => ?_
    refine Task.yields_bind (Task.yields_answer fun hits answered => told hits answered)
      fun hits same => ?_
    refine Task.yields_bind (Task.yields_ofBreakdown fun found read => read) fun found read => ?_
    refine Task.yields_pure fun post _ => ?_
    rw [Hit.vectors_of_neighbours read, same, reported]

theorem embedding_of_rows {rows : List (PostRow R)} {posts : List (Post C)}
    (read : List.Forall₂ (fun row post => row.post = .ok post) rows posts) (id : Text) :
    (posts.find? (·.id = id)).bind (·.embedding) =
      (rows.find? (·.id = id)).bind fun row => row.storedEmbedding.toOption.join := by
  induction read with
  | nil => rfl
  | @cons row post _ _ first _ ih =>
    obtain ⟨embedding, stored, rfl⟩ := ok_of_map first
    by_cases same : row.id = id
    · simp [same, stored, Except.toOption]
    · simpa [same] using ih

theorem fetchPosts_tells (ids : List Text) :
    (fetchPosts ids : Task C R (List (Post C))).Yields deployment.telling fun posts =>
      ∀ id ∈ ids, (posts.find? (·.id = id)).bind (·.embedding) =
        (deployment.tables.post? id).bind fun row => row.storedEmbedding.toOption.join := by
  unfold fetchPosts
  split
  · rename_i none
    rw [List.isEmpty_iff.1 none]
    exact Task.yields_pure fun id member => absurd member List.not_mem_nil
  · refine Task.yields_bind (Task.yields_query rfl fun rows told => told rows rfl)
      fun rows told => ?_
    refine Task.yields_ofBreakdown fun posts read id member => ?_
    obtain ⟨after, ran⟩ := told
    obtain ⟨-, answered⟩ := Tables.ok_of_run ran
    cases answered
    -- The rows that were asked for keep their order, so the first of an id is the first of all.
    have asked : (deployment.tables.posts.filter fun row => ids.eraseDups.contains row.id).find?
        (·.id = id) = deployment.tables.post? id := by
      rw [List.find?_filter]
      refine congrArg (deployment.tables.posts.find? ·) (funext fun row => ?_)
      by_cases same : row.id = id
      · simp [same, member]
      · simp [same]
    rw [← asked]
    exact embedding_of_rows ((mapM_ok_iff _ _ _).1 read) id

theorem sourceVectors_tells (deployment : Deployment C R) (posts : List Text) :
    (sourceVectors posts : Task C R (List (Tensor C))).Yields deployment.telling
      fun vectors => vectors = posts.filterMap (deployment.vector? posts) := by
  refine Task.yields_bind (Task.yields_bounded (fetchVectors_tells posts)) fun indexed told => ?_
  dsimp only
  -- A vector comes from the index first, and only what is missing there is looked for in rows.
  have stored {found : List (Post C)} (holds : ∀ id ∈ posts, vectorFor indexed id = none →
      (found.find? (·.id = id)).bind (·.embedding) =
        (deployment.tables.post? id).bind fun row => row.storedEmbedding.toOption.join) :
      (posts.filterMap fun post =>
        match vectorFor indexed post with
        | some vector => some vector.toTensor
        | none => (found.find? (·.id = post)).bind (·.embedding)) =
      posts.filterMap (deployment.vector? posts) := by
    refine List.filterMap_congr fun post member => ?_
    have same := told post member
    unfold vector?
    dsimp only
    rw [← same]
    split
    · rfl
    · exact holds post member ‹_›
  split
  · rename_i none
    refine Task.yields_pure (stored fun post member missing => ?_)
    have absent : post ∈ posts.filter fun post => (vectorFor indexed post).isNone :=
      List.mem_filter.2 ⟨member, by rw [missing]; rfl⟩
    rw [List.isEmpty_iff.1 none] at absent
    cases absent
  · refine Task.yields_bind (Task.yields_bounded (fetchPosts_tells _)) fun found holds => ?_
    refine Task.yields_pure (stored fun post member missing => holds post ?_)
    exact List.mem_filter.2 ⟨member, by rw [missing]; rfl⟩

omit [Component C R] in
theorem run_setInterest {tables : Tables R} {identity : Text} {vector : List R}
    (known : tables.user? identity ≠ none) (stored : columnFlaw? [identity] [] = none)
    (present : vector ≠ []) :
    (Query.interestVector identity).run (tables.setInterest identity vector) =
      .ok (some (vector.map .real), tables.setInterest identity vector) := by
  obtain ⟨user, row⟩ := Option.ne_none_iff_exists'.1 known
  have owned : user.id = identity := by simpa using List.find?_some row
  have after : (tables.setInterest identity vector).user? identity =
      some { user with interest := some (vector.map .real) } := by
    rw [Tables.setInterest, Tables.user?_map, row, Option.map_some, if_pos owned]
    intro other
    split <;> rfl
  unfold Query.run Query.flaw?
  dsimp only
  rw [stored]
  dsimp only [Query.answer]
  rw [after, Option.bind_some, UserRow.interestVector,
    Option.filter_some_pos (by simpa using present)]

def Holds (service : Service R) (set : CacheKey) (identity : Text) (written : String) : Prop :=
  ∃ key, Own set identity key ∧ (service.key key).toString? = some written

def IsKeyed (service : Service R) (cache : CacheStore R) : Prop :=
  ∀ entry ∈ cache.entries, ∃ key : CacheKey, key.owner.Lacks ':' ∧
    (service.key key).toString? = some entry.1

/-- A cache loses the entries of a value of a person and of the person's pages, and no others. -/
structure DropsOwn (service : Service R) (set : CacheKey) (identity : Text)
    (cache after : CacheStore R) : Prop where
  unreached : cache.isOn = false → after = cache
  exact : service.root.IsPlain → identity.IsPlain → identity.Lacks ':' → cache.isOn = true →
    service.IsKeyed cache → ∀ written,
      (service.Holds set identity written → after.entry? written = none) ∧
      (¬ service.Holds set identity written → after.entry? written = cache.entry? written)

/-- The row of a person gets an interest vector, if there is one, and what was made of the old
vector is dropped from the cache. -/
structure StoresInterest (service : Service R) (identity : Text) (interest : List R)
    (deployment after : Deployment C R) : Prop where
  tables : after.tables = { deployment.tables with
    users := deployment.tables.users.map fun user =>
      if user.id = identity then { user with interest := some (interest.map .real) } else user }
  stored : deployment.tables.user? identity ≠ none →
    (Query.interestVector identity).run after.tables =
      .ok (some (interest.map .real), after.tables)
  cache : service.DropsOwn (.interestVector identity) identity deployment.cache after.cache

variable {service : Service R} {identity : Text}

omit [Score R] in
/-- To drop what a key and the pattern of a person's pages select drops what was made of the value
under the key. -/
theorem dropsOwn_dropped (named : identity.isEmpty = false) {set : CacheKey} {own asked : String}
    (encoded : (service.key set).toString? = some own)
    (matched : (CacheKey.pagesPattern service.root (some identity)).toString? = some asked)
    (cache : CacheStore R) :
    service.DropsOwn set identity cache
      (cache.dropped fun other => [own].contains other || Glob.selects asked other) := by
  let gone (other : String) : Bool := [own].contains other || Glob.selects asked other
  refine ⟨CacheStore.dropped_of_off, fun plain person free on keyed written => ?_⟩
  have left : CacheStore.entry? (cache.dropped gone) written =
      if gone written then none else cache.entry? written :=
    CacheStore.entry?_dropped on written
  have alone : [own].contains written = true ↔ (service.key set).toString? = some written := by
    rw [encoded]
    simp [eq_comm]
  constructor
  · rintro ⟨key, rfl | page, found⟩
    · rw [left, if_pos (Bool.or_eq_true_iff.2 (.inl (alone.2 found)))]
    · obtain ⟨fingerprint, size, cursor, rfl⟩ := page
      have selected := CacheKey.selects_page plain
        (fun name same => Option.some.inj same ▸ person) (.inr rfl) matched found
      rw [left, if_pos (Bool.or_eq_true_iff.2 (.inr selected))]
  · intro other
    rw [left]
    split
    · rename_i away
      -- Of the keys that are in use the pattern selects only those of the person's pages.
      cases there : cache.entry? written with
      | none => rfl
      | some entry =>
        refine absurd ?_ other
        obtain ⟨pair, found, rfl⟩ := Option.map_eq_some_iff.1 there
        obtain rfl : pair.1 = written := by simpa using List.find?_some found
        obtain ⟨key, owned, inside⟩ := keyed pair (List.mem_of_find?_eq_some found)
        rcases Bool.or_eq_true_iff.1 away with same | selected
        · exact ⟨set, .inl rfl, alone.1 same⟩
        · exact ⟨key, .inr (CacheKey.isPageOf_of_selects plain person free named owned matched
            inside selected), inside⟩
    · rfl

theorem perform_dropOwn (deployment : Deployment C R) (rooted : service.root.isWhole = true)
    (named : identity.isEmpty = false) (whole : identity.isWhole = true) (set : CacheKey)
    (parts : set.parts = [identity]) (value : α) :
    ∃ cache, deployment.perform (do
        drop [service.key set]; let _ ← service.dropPages (some identity); return value) =
        (.ok value, { deployment with cache := cache }) ∧
      service.DropsOwn set identity deployment.cache cache := by
  have key : (service.key set).isWhole = true := by
    rw [Service.key, CacheKey.text, CacheKey.isWhole_join, parts, rooted]
    simp [whole]
  have pattern : (CacheKey.pagesPattern service.root (some identity)).isWhole = true := by
    rw [CacheKey.pagesPattern, CacheKey.isWhole_join, rooted, CacheKey.patternPart]
    simp [named, whole]
  obtain ⟨own, encoded⟩ := Text.exists_of_isWhole key
  obtain ⟨asked, matched⟩ := Text.exists_of_isWhole pattern
  obtain ⟨count, ended⟩ :=
    perform_dropMatching (deployment.dropped [own].contains) matched
  refine ⟨_, ?_, dropsOwn_dropped named encoded matched deployment.cache⟩
  rw [perform_bind_ok (perform_drop encoded), dropPages, perform_bind_ok ended, dropped_dropped]
  rfl

/-- A new interest vector is stored with all that goes with it, or nothing changes. -/
theorem perform_storing (rooted : service.root.isWhole = true)
    (named : identity.isEmpty = false) {interest : List R} (present : interest ≠ []) (value : α)
    {result : Except (Stop R) α} {after : Deployment C R}
    (ended : deployment.perform (do
      Task.bounded Task.databaseName (Task.query (.setInterestVector identity interest))
      drop [service.key (.interestVector identity)]
      let _ ← service.dropPages (some identity)
      return value) = (result, after)) :
    match result with
    | .error _ => after.tables = deployment.tables ∧ after.cache = deployment.cache
    | .ok found => found = value ∧ service.StoresInterest identity interest deployment after := by
  obtain ⟨rules, ⟨stop, failed⟩ | ⟨answer, tables, ran, stored⟩⟩ := perform_order_cases
    deployment Task.databaseName (.setInterestVector identity interest)
  · have stopped := ended.symm.trans (perform_bind_error failed _)
    cases stopped
    exact ⟨rfl, rfl⟩
  -- The order was carried out, so the cache is cleared with nothing left that can fail.
  · have changed := ended.symm.trans (perform_bind_ok stored _)
    obtain ⟨written, answered⟩ := Tables.ok_of_run ran
    cases answered
    have whole := isWhole_of_columnFlaw? written identity List.mem_cons_self
    obtain ⟨cache, dropped, drops⟩ := perform_dropOwn
      { deployment with rules := rules, tables := deployment.tables.setInterest identity interest }
      rooted named whole (.interestVector identity) rfl value
    cases changed.trans dropped
    exact ⟨rfl, rfl, fun known => run_setInterest known written present, drops⟩

/-- A rebuild that stops or finds no vector changes nothing. Any other one counts the vectors of the
latest posts that the person saved and wrote, those of the index before the stored ones, and stores
the direction of their centroid. -/
theorem rebuildInterest_reports (rooted : service.root.isWhole = true)
    {result : Except (Stop R) Rebuild} {after : Deployment C R}
    (ended : deployment.perform (service.rebuildInterest identity) = (result, after)) :
    let sources := deployment.tables.interestSources identity
      service.config.ranking.interestSourceLimit
    let vectors := sources.filterMap (deployment.vector? sources)
    match result with
    | .error _ => after.tables = deployment.tables ∧ after.cache = deployment.cache
    | .ok ⟨owner, false, count⟩ =>
      owner = identity ∧ count = 0 ∧ vectors = [] ∧
        after.tables = deployment.tables ∧ after.cache = deployment.cache
    | .ok ⟨owner, true, count⟩ =>
      owner = identity ∧ sources.Nodup ∧ 1 ≤ count ∧ count = vectors.length ∧
        ∃ rows : List (Embedding C), vectors = rows.map Embedding.toTensor ∧
          service.StoresInterest identity
            ((Embedding.mean rows).normalize.toList.map Component.widen) deployment after := by
  intro sources vectors
  rw [rebuildInterest] at ended
  split at ended
  · cases ended
    exact ⟨rfl, rfl⟩
  rename_i named
  have asks : (Task.bounded Task.databaseName (Task.query (.interestSources identity
      service.config.ranking.interestSourceLimit)) : Task C R _).Yields deployment.telling
      fun found => found = sources := by
    refine Task.yields_bounded (Task.yields_query rfl fun found told => ?_)
    obtain ⟨tables, ran⟩ := told found rfl
    exact (congrArg Prod.fst (Except.ok.inj (Tables.ok_of_run ran).2)).symm
  obtain ⟨read, rules, asked, told⟩ := perform_telling asks
  cases read with
  | error stop =>
    rw [perform_bind_error asked] at ended
    cases ended
    exact ⟨rfl, rfl⟩
  | ok found =>
    rw [perform_bind_ok asked, told found rfl] at ended
    obtain ⟨read, rules, looked, told⟩ := perform_telling
      (sourceVectors_tells { deployment with rules := rules } sources)
    cases read with
    | error stop =>
      rw [perform_bind_error looked] at ended
      cases ended
      exact ⟨rfl, rfl⟩
    | ok found =>
      have same : found = vectors := told found rfl
      rw [perform_bind_ok looked, same] at ended
      split at ended
      · rename_i none
        cases ended
        exact ⟨rfl, rfl, List.isEmpty_iff.1 none, rfl, rfl⟩
      · rename_i some
        -- Up to here only rules of failures were used up, so each stop so far has changed nothing.
        cases made : interestOf (R := R) vectors with
        | error cause =>
          rw [made] at ended
          cases ended
          exact ⟨rfl, rfl⟩
        | ok interest =>
          obtain ⟨rows, flat, rfl⟩ := interestOf_ok made
          rw [made] at ended
          have present : (Embedding.mean rows).normalize.toList.map (Component.widen : C → R) ≠
              [] := by
            rw [← List.length_pos_iff, List.length_map, Embedding.length_toList]
            decide
          have stored := perform_storing rooted (by simpa using named) present _ ended
          cases result with
          | error stop => exact stored
          | ok rebuild =>
            obtain ⟨rfl, stores⟩ := stored
            have counted : 1 ≤ vectors.length := by
              rw [Nat.one_le_iff_ne_zero, Ne, List.length_eq_zero_iff]
              exact fun none => some (List.isEmpty_iff.2 none)
            exact ⟨rfl, nodup_eraseDups _, counted, rfl, rows, flat, stores.tables, stores.stored,
              stores.cache⟩

end Service

def twoSources : Deployment ℚ ℚ :=
  { twoPosts with cache := ⟨[("discovery:iv:bob", .document (.array []))], [], true⟩ }

theorem rebuildInterest_of_twoSources :
    (twoSources.perform ((Service.standard "discovery" ⟨0, 0⟩ : Service ℚ).rebuildInterest
      (C := ℚ) "bob")).1.toOption = some ⟨"bob", true, 2⟩ := by
  let service : Service ℚ := .standard "discovery" ⟨0, 0⟩
  let query : Query ℚ := .interestSources "bob" service.config.ranking.interestSourceLimit
  have sources : query.run twoSources.tables =
      .ok (twoSources.tables.posts.map PostRow.id, twoSources.tables) := by
    have own : twoSources.tables.posts.filter (fun row => row.author = ("bob" : Text)) =
        twoSources.tables.posts := rfl
    have sorted : newestFirst PostRow.createdAt twoSources.tables.posts =
        twoSources.tables.posts := List.mergeSort_of_pairwise (by decide)
    have found : twoSources.tables.interestSources "bob"
        service.config.ranking.interestSourceLimit = twoSources.tables.posts.map PostRow.id := by
      unfold Tables.interestSources
      rw [own, sorted]
      decide +kernel
    rw [← found]
    rfl
  have asked : twoSources.perform (Task.bounded Task.databaseName (Task.query query)) = _ :=
    Deployment.perform_order rfl Task.databaseName query
  rw [sources] at asked
  unfold Service.rebuildInterest
  rw [if_neg (by decide), Deployment.perform_bind_ok asked]
  decide +kernel

/-- The vector of the author is built from both posts, and the old one is gone from the cache. -/
theorem rebuildInterest_reports_of_twoSources :
    let service : Service ℚ := .standard "discovery" ⟨0, 0⟩
    let after := (twoSources.perform (service.rebuildInterest (C := ℚ) "bob")).2
    service.root.isWhole = true ∧ twoSources.tables.user? "bob" ≠ none ∧
      service.IsKeyed twoSources.cache ∧
      ∃ rows : List (Embedding ℚ), rows.length = 2 ∧
        (Query.interestVector "bob").run after.tables =
          .ok (some ((Embedding.mean rows).normalize.toList.map .real), after.tables) ∧
        after.cache.entry? "discovery:iv:bob" = none := by
  intro service after
  have known : twoSources.tables.user? "bob" ≠ none := by decide
  have keyed : service.IsKeyed twoSources.cache := by
    intro entry member
    rw [List.mem_singleton.1 member]
    exact ⟨.interestVector "bob", by decide, by decide⟩
  refine ⟨rfl, known, keyed, ?_⟩
  have ended : twoSources.perform (service.rebuildInterest (C := ℚ) "bob") =
      (.ok ⟨"bob", true, 2⟩, after) := by
    refine Prod.ext ?_ rfl
    have ended := rebuildInterest_of_twoSources
    cases result : (twoSources.perform (service.rebuildInterest (C := ℚ) "bob")).1 with
    | ok rebuild =>
      rw [result] at ended
      exact congrArg Except.ok (Option.some.inj ended)
    | error stop =>
      rw [result] at ended
      cases ended
  obtain ⟨-, -, -, count, rows, flat, stores⟩ := Service.rebuildInterest_reports rfl ended
  have own : service.Holds (.interestVector "bob") "bob" "discovery:iv:bob" :=
    ⟨.interestVector "bob", .inl rfl, by decide⟩
  refine ⟨rows, ?_, ?_, ?_⟩
  · rw [count, flat, List.length_map]
  · have exact : (Embedding.mean rows).normalize.toList.map (Component.widen : ℚ → ℚ) =
        (Embedding.mean rows).normalize.toList := List.map_id _
    rw [← exact]
    exact stores.stored known
  · exact (stores.cache.exact (by decide) (by decide) (by decide) rfl keyed _).1 own

end PersonalFeed
