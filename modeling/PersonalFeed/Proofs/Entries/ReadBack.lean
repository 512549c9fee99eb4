import PersonalFeed.Proofs.Entries.Settling
import PersonalFeed.Proofs.Entries.Writable
import PersonalFeed.Proofs.Interest
import PersonalFeed.Proofs.Losses.Withheld

/-!
Cached values are read as what they were made of. Whatever a task came to when it found nothing
under its key, it comes to again from the entry alone that it left there, on any stores. An entry is
a document here and a text on the server, and the text of a writable value is read as its document.
-/

set_option autoImplicit false

namespace PersonalFeed

open Json (isSpace spelled depthLimit)

variable {C R : Type}

/-! ### Entries -/

namespace CacheStore

theorem entry?_insert (cache : CacheStore R) (written : String) (entry : CacheEntry R) :
    CacheStore.entry? (cache.insert written entry) written = some entry := by
  rw [CacheStore.entry?, insert]
  dsimp only
  induction cache.entries with
  | nil => simp [assign]
  | cons head rest ih =>
    rw [assign]
    split
    · simp
    · rename_i differs
      rw [List.find?_cons_of_neg (by simpa using differs)]
      exact ih

theorem exists_found {cache : CacheStore R} {written : String} (working : cache.isOn = true)
    (held : (cache.entry? written).isSome = true) : ∃ entry, cache.read written = .found entry := by
  obtain ⟨entry, same⟩ := Option.isSome_iff_exists.1 held
  exact ⟨entry, by rw [read, if_pos working, same]⟩

variable {cache : CacheStore R} {text : Text} {written : String}
  (encoded : text.toString? = some written)

include encoded

/-- What is under a key after an order for it is what was ordered, if nothing was there. -/
theorem stored_of_write {value : Json R} {lifetime : Int} {stored : CacheEntry R}
    (absent : cache.read written = .absent)
    (found : (cache.write text value lifetime).read written = .found stored) :
    stored = .document value := by
  unfold write at found
  rw [encoded] at found
  dsimp only at found
  split at found
  · have kept := entry?_insert (cache.note text (some lifetime)) written (.document value)
    unfold read at found
    rw [kept] at found
    split at found
    · cases found
      rfl
    · cases found
  · change cache.read written = _ at found
    rw [absent] at found
    cases found

theorem read_write (absent : cache.read written = .absent) {lifetime : Int}
    (taken : isLifetime lifetime = true) (value : Json R) :
    (cache.write text value lifetime).read written = .found (.document value) := by
  have on : cache.isOn = true := by
    unfold read at absent
    split at absent
    · assumption
    · cases absent
  have kept := entry?_insert (cache.note text (some lifetime)) written (.document value)
  unfold write
  rw [encoded]
  dsimp only
  rw [if_pos ⟨on, taken⟩, read, kept]
  exact if_pos on

end CacheStore

section

variable [Numeral R] {document : Json R}

/-- The text of a document that can be written stands for it, whatever blanks are in it. -/
theorem CacheEntry.decode_spelled {gap : List Char} (blank : ∀ c ∈ gap, isSpace c = true)
    (writable : document.IsWritable depthLimit) :
    (CacheEntry.text (String.ofList (spelled gap document))).decode = .ok document := by
  rw [decode, Json.parseString, String.toList_ofList]
  exact Json.parse_spelled blank writable

theorem CacheStore.reading_of_decode {cache : CacheStore R} {written : String}
    {entry : CacheEntry R} (found : cache.read written = .found entry)
    (decoded : entry.decode = .ok document) (present : document ≠ .null) :
    cache.reading written = .ok (some document) := by
  rw [reading, found, CacheReply.reading, decoded]
  cases document <;> first | rfl | exact absurd rfl present

end

/-! ### Tasks -/

namespace Deployment

variable {α β : Type} [Score R] [Component C R]

theorem perform_bind_eq_ok {deployment later : Deployment C R} {task : Task C R α}
    {f : α → Task C R β} {result : β}
    (ended : deployment.perform (task >>= f) = (.ok result, later)) :
    ∃ value middle, deployment.perform task = (.ok value, middle) ∧
      middle.perform (f value) = (.ok result, later) := by
  cases first : deployment.perform task with
  | mk outcome middle =>
    cases outcome with
    | error stop =>
      rw [perform_bind_error first] at ended
      cases ended
    | ok value =>
      rw [perform_bind_ok first] at ended
      exact ⟨value, middle, rfl, ended⟩

structure Misses (service : Service R) (deployment : Deployment C R) (key : CacheKey)
    (task : Task C R α) (written : String) (value : α) (later : Deployment C R) : Prop where
  encoded : (service.key key).toString? = some written
  absent : deployment.cache.read written = .absent
  ended : deployment.perform task = (.ok value, later)

/-- What a task came to when nothing was under its key, it comes to again from any entry that stands
for the document it left there, whatever the stores are by then, and nothing but counts changes. If
the value can be written, every text of the document stands for it. -/
structure Recalls (service : Service R) (deployment : Deployment C R) (key : CacheKey)
    (task : Task C R α) (writable kept : α → Prop) : Prop where
  reads : ∀ written value later, deployment.Misses service key task written value later →
    ∀ stored, later.cache.read written = .found stored →
      ∃ document, stored = .document document ∧
        (writable value → ∀ gap, (∀ c ∈ gap, isSpace c = true) →
          (CacheEntry.text (String.ofList (spelled gap document))).decode = .ok document) ∧
        ∀ (entry : CacheEntry R) (other : Deployment C R), entry.decode = .ok document →
          other.cache.read written = .found entry →
            ∃ metrics, other.perform task = (.ok value, { other with metrics := metrics })
  keeps : CacheStore.isLifetime (service.config.lifetimes.get key.artifact) = true →
    ∀ written value later, deployment.Misses service key task written value later → kept value →
      ∃ stored, later.cache.read written = .found stored

variable {service : Service R} {deployment : Deployment C R} {key : CacheKey}
variable {found : Option (Json R) → Task C R α} {writable kept : α → Prop}

/-- The document of a value: what goes on from a look-up that finds it goes on to this value. -/
structure Stands (found : Option (Json R) → Task C R α) (writable : α → Prop) (value : α)
    (document : Json R) : Prop where
  present : document ≠ .null
  text : writable value → document.IsWritable depthLimit
  back : found (some document) = pure value

/-- After a look-up in vain nothing is left under the key, or the document of the value. -/
inductive Leaves (service : Service R) (key : CacheKey) (found : Option (Json R) → Task C R α)
    (writable kept : α → Prop) (written : String) (value : α) (later : Deployment C R) : Prop
  | nothing (absent : later.cache.read written = .absent) (dropped : ¬ kept value)
  | document (document : Json R) (cache : CacheStore R) (absent : cache.read written = .absent)
      (ordered : later.cache = cache.write (service.key key) document
        (service.config.lifetimes.get key.artifact))
      (stands : Stands found writable value document)

theorem recalls_of_leaves
    (leaves : ∀ written metrics value later, (service.key key).toString? = some written →
      deployment.cache.read written = .absent →
      { deployment with metrics := metrics }.perform (found none) = (.ok value, later) →
        Leaves service key found writable kept written value later) :
    deployment.Recalls service key (service.cached key >>= found) writable kept := by
  -- What a look-up in vain leaves answers both questions: what is read later, and what is kept.
  have looked {written : String} {value : α} {later : Deployment C R}
      (misses : deployment.Misses service key (service.cached key >>= found) written value later) :
      Leaves service key found writable kept written value later := by
    obtain ⟨encoded, absent, ended⟩ := misses
    have missed : deployment.cache.reading written = .ok none := by
      rw [CacheStore.reading, absent]
      rfl
    obtain ⟨metrics, looked⟩ := perform_cached encoded missed
    rw [perform_bind_ok looked] at ended
    exact leaves written metrics value later encoded absent ended
  constructor
  · intro written value later misses stored there
    rcases looked misses with ⟨absent, -⟩ | ⟨document, cache, absent, ordered, stands⟩
    · cases absent.symm.trans there
    · rw [ordered] at there
      refine ⟨document, CacheStore.stored_of_write misses.encoded absent there,
        fun plain gap blank => CacheEntry.decode_spelled blank (stands.text plain), ?_⟩
      intro entry other decoded there
      obtain ⟨metrics, looked⟩ := perform_cached misses.encoded
        (CacheStore.reading_of_decode there decoded stands.present)
      rw [perform_bind_ok looked, stands.back]
      exact ⟨metrics, rfl⟩
  · intro taken written value later misses wanted
    rcases looked misses with ⟨-, dropped⟩ | ⟨document, cache, absent, ordered, -⟩
    · exact absurd wanted dropped
    · rw [ordered]
      exact ⟨_, CacheStore.read_write misses.encoded absent taken document⟩

/-! ### Parts -/

theorem perform_ofExcept_eq_ok {later : Deployment C R} {result : Except (Fault R) α} {value : α}
    (ended : deployment.perform (Task.ofExcept result) = (.ok value, later)) :
    result = .ok value ∧ later = deployment := by
  cases result <;> cases ended
  exact ⟨rfl, rfl⟩

theorem perform_query_eq_ok {later : Deployment C R} {query : Query R} {answer : query.Answer}
    (reading : query.isReading = true)
    (ended : deployment.perform (Task.query query) = (.ok answer, later)) :
    query.answer deployment.tables = .ok (answer, deployment.tables) ∧
      later.cache = deployment.cache := by
  obtain ⟨rules, ⟨stop, stopped⟩ | ⟨given, after, ran, done⟩⟩ :=
    perform_query_cases deployment query
  · cases stopped.symm.trans ended
  · cases done.symm.trans ended
    cases Query.tables_of_reading reading ran
    exact ⟨(Tables.ok_of_run ran).2, rfl⟩

/-- To keep a value changes the cache, and what follows goes on from there. -/
theorem perform_keep_eq_ok {written : String} (encoded : (service.key key).toString? = some written)
    {document : Json R} {rest : Unit → Task C R α} {value : α} {later : Deployment C R}
    (ended : deployment.perform (service.keep key document >>= rest) = (.ok value, later)) :
    { deployment with
      cache := deployment.cache.write (service.key key) document
        (service.config.lifetimes.get key.artifact) }.perform (rest ()) = (.ok value, later) := by
  rwa [perform_bind_ok (perform_keep encoded document)] at ended

theorem loadIds_recalls {load : Task C R (List Text)}
    (quiet : ∀ (start later : Deployment C R) (ids : List Text),
      start.perform load = (.ok ids, later) → later.cache = start.cache) :
    deployment.Recalls service key (service.loadIds key load) IdSet.IsWritable fun _ => True := by
  refine recalls_of_leaves fun written metrics value later encoded absent ended => ?_
  obtain ⟨ids, middle, loaded, ended⟩ := perform_bind_eq_ok ended
  have same := quiet _ _ _ loaded
  cases perform_keep_eq_ok encoded ended
  refine .document (.ofTexts (sortedIds ids)) _ (same ▸ absent) rfl
    ⟨nofun, fun whole => isWritable_ofTexts whole _, ?_⟩
  dsimp only
  rw [IdSet.ofJson_ofTexts (nodup_sortedIds ids)]
  rfl

theorem loadTopics_recalls {identity : Text} :
    deployment.Recalls service (.topics identity) (service.loadTopics identity) IdSet.IsWritable
      fun _ => True := by
  refine loadIds_recalls fun start later ids ended => ?_
  obtain ⟨rows, middle, asked, made⟩ := perform_bind_eq_ok ended
  obtain ⟨posts, last, read, returned⟩ := perform_bind_eq_ok made
  obtain ⟨-, rfl⟩ := perform_ofExcept_eq_ok read
  cases returned
  exact (perform_query_eq_ok rfl asked).2

theorem loadSeen_recalls (dated : deployment.tables.IsDated) {identity : Text} :
    deployment.Recalls service (.seen identity) (service.loadSeen identity) SeenMap.IsWritable
      fun _ => True := by
  refine recalls_of_leaves fun written metrics value later encoded absent ended => ?_
  obtain ⟨since, middle, started, ended⟩ := perform_bind_eq_ok ended
  obtain ⟨marks, last, asked, ended⟩ := perform_bind_eq_ok ended
  obtain ⟨-, rfl⟩ := perform_ofExcept_eq_ok started
  obtain ⟨answered, same⟩ := perform_query_eq_ok rfl asked
  cases answered
  cases perform_keep_eq_ok encoded ended
  refine .document (SeenMap.toJson (deployment.tables.seenSince identity since)) _ (same ▸ absent)
    rfl ⟨nofun, SeenMap.isWritable_toJson, ?_⟩
  dsimp only
  rw [SeenMap.ofJson_toJson (Tables.seenSince_isStored dated identity since)]
  rfl

theorem loadProfile_recalls {identity : Text} :
    deployment.Recalls service (.profile identity) (service.loadProfile identity)
      (fun profile => ∀ given, profile = some given → given.IsWritable) fun _ => True := by
  refine recalls_of_leaves fun written metrics value later encoded absent ended => ?_
  obtain ⟨profile, middle, asked, ended⟩ := perform_bind_eq_ok ended
  have same := (perform_query_eq_ok rfl asked).2
  cases perform_keep_eq_ok encoded ended
  refine .document (Profile.toJson value) _ (same ▸ absent) rfl
    ⟨?_, Profile.isWritable_toJson, ?_⟩
  · cases value <;> nofun
  · dsimp only
    rw [Profile.ofJson_toJson]
    rfl

/-- A stored interest vector is read as it was loaded, and the absence of one is not kept. -/
theorem loadInterest_recalls {identity : Text} :
    deployment.Recalls service (.interestVector identity) (service.loadInterest identity)
      (fun vector => ∀ value, vector = some value → value.IsWritable depthLimit)
      fun vector => vector ≠ none := by
  refine recalls_of_leaves fun written metrics value later encoded absent ended => ?_
  obtain ⟨stored, middle, asked, ended⟩ := perform_bind_eq_ok ended
  have same := (perform_query_eq_ok rfl asked).2
  cases stored with
  | none =>
    cases ended
    exact .nothing (same ▸ absent) (not_not_intro rfl)
  | some components =>
    cases perform_keep_eq_ok encoded ended
    exact .document _ middle.cache (same ▸ absent) rfl ⟨nofun, fun plain => plain _ rfl, rfl⟩

end Deployment

/-! ### Responses -/

def Tables.reporting [Scalar R] (tables : Tables R) (text : Text) : Contract C R where
  allows
    | .query query => query.isReading = true
    | call => ¬ call.Alters text
  admits
    | .query query, reply => ∀ answer, reply = .answer answer →
      ∃ after, query.run tables = .ok (answer, after)
    | _, _ => True

section

variable {tables : Tables R} {text : Text}

theorem reporting_reports [Scalar R] : (tables.reporting (C := C) text).Reports tables :=
  ⟨fun _ reading => reading, fun _ answer admitted => admitted answer rfl⟩

theorem reporting_serves [Scalar R] : (tables.reporting (C := C) text).Serves :=
  ⟨fun _ reading => reading, fun _ _ _ => id, fun _ => id, fun _ => id, fun _ => id⟩

/-- While what is under the key of a response is left, all its posts are in the tables. -/
theorem reporting_informs [Score R] [Component C R] (tables : Tables R) (service : Service R)
    (identity : Text) (key : CacheKey) (response : ¬ key.IsPart) :
    (tables.reporting (key.text service.root)).Informs service identity
      ⟨fun _ => True, fun _ => True, fun _ => True, tables.HasPost (C := C)⟩ :=
  have takes := Service.takes_leaving (C := C) service.root key response
  have carries : (tables.reporting (C := C) (service.key key)).Carries service identity :=
    Service.carries_of_takes reporting_serves takes identity
  { serves := reporting_serves
    takes := fun part aside => takes part (by cases part <;> trivial)
    following := carries.following
    blocked := carries.blocked
    posts := fun _ => Service.fetchPosts_yields reporting_reports
    authors := fun ids => Task.yields_mono (carries.authors ids) fun _ _ _ _ => trivial }

end

namespace Deployment

variable {α : Type} [Score R] [Component C R] {deployment : Deployment C R} {service : Service R}

theorem keptBy_reporting {text : Text} {written : String}
    (encoded : text.toString? = some written) :
    (deployment.tables.reporting text).KeptBy reply fun other =>
      other.tables = deployment.tables ∧ deployment.SameUnder written other := by
  rintro call other ⟨tables, same⟩ allowed
  have leaves : ¬ call.Alters text := by cases call <;> first | exact allowed | exact id
  have next := reply_leaves encoded leaves other
  -- Whether the key is left is known already, so only the answers and the tables are looked at.
  suffices answered : (deployment.tables.reporting text).admits call (reply call other).1 ∧
      (reply call other).2.tables = deployment.tables from
    ⟨answered.1, answered.2, next.1.trans same.1, next.2.trans same.2⟩
  refine ⟨?_, (tables_reply (fun _ same => by cases same; exact allowed) other).trans tables⟩
  cases call with
  | query query =>
    intro answer answered
    obtain ⟨after, ran⟩ := run_of_answer answered
    exact ⟨after, tables ▸ ran⟩
  | _ => trivial

theorem perform_reporting {text : Text} {written : String} (encoded : text.toString? = some written)
    {task : Task C R α} {value : α} {later : Deployment C R}
    (ended : deployment.perform task = (.ok value, later)) {P : α → Prop}
    (yields : task.Yields (deployment.tables.reporting text) P) :
    P value ∧ deployment.SameUnder written later := by
  obtain ⟨holds, -, same⟩ :=
    Program.meets_run (keptBy_reporting encoded) yields deployment ⟨rfl, rfl, rfl⟩
  have ran : task.run.run reply deployment = (.ok value, later) := ended
  rw [ran] at holds same
  exact ⟨holds value rfl, same⟩

theorem recalls_of_count {key : CacheKey} {task counted : Task C R α} {writable kept : α → Prop}
    (counts : ∀ other : Deployment C R, ∃ metrics,
      other.perform counted = { other with metrics := metrics }.perform task)
    (recalls : ∀ metrics,
      { deployment with metrics := metrics }.Recalls service key task writable kept) :
    deployment.Recalls service key counted writable kept := by
  obtain ⟨metrics, before⟩ := counts deployment
  have misses {written : String} {value : α} {later : Deployment C R}
      (misses : deployment.Misses service key counted written value later) :
      { deployment with metrics := metrics }.Misses service key task written value later :=
    ⟨misses.encoded, misses.absent, before ▸ misses.ended⟩
  constructor
  · intro written value later missed stored found
    obtain ⟨document, same, plain, reads⟩ :=
      (recalls metrics).reads written value later (misses missed) stored found
    refine ⟨document, same, plain, fun entry other decoded there => ?_⟩
    obtain ⟨metrics, before⟩ := counts other
    obtain ⟨metrics, again⟩ := reads entry { other with metrics := metrics } decoded there
    exact ⟨metrics, before.trans again⟩
  · exact fun taken written value later missed =>
      (recalls metrics).keeps taken written value later (misses missed)

theorem rankFeedChecked_recalls {deployment : Deployment C R}
    (dated : deployment.tables.IsDated) {query : FeedQuery R} {key : CacheKey}
    (keyed : query.key? = .ok key) :
    deployment.Recalls service key (service.rankFeedChecked query) FeedResponse.IsWritable
      fun _ => False := by
  obtain ⟨fingerprint, made, keyed⟩ := ok_of_bind keyed
  cases keyed
  rw [Service.rankFeedChecked, made]
  refine recalls_of_leaves fun written metrics value later encoded absent ended => ?_
  obtain ⟨⟨response, complete⟩, middle, computed, ended⟩ := perform_bind_eq_ok ended
  have informs := reporting_informs (C := C) deployment.tables service query.identity
    (.page query.identity fingerprint query.pageSize query.cursor) id
  obtain ⟨shows, same⟩ := perform_reporting encoded computed
    (Service.computePageBy_shows informs (Service.gathers_loadContext service query.identity))
  have free := (CacheStore.read_congr same.1 same.2).trans absent
  have moments := moments_of_dates dated fun item member =>
    deployment.tables.dates_of_shows (fun _ => id) (shows item member)
  cases complete with
  | false =>
    cases ended
    exact .nothing free id
  | true =>
    cases perform_keep_eq_ok encoded ended
    -- The moments of the items are those of rows, so they are read as they were written.
    refine .document _ _ free rfl ⟨(by rintro ⟨⟩), FeedResponse.isWritable_toJson, ?_⟩
    dsimp only
    rw [FeedResponse.read_toJson, moments]
    rfl

theorem rankFeed_recalls (dated : deployment.tables.IsDated) {request : FeedRequest R}
    {query : FeedQuery R} {key : CacheKey}
    (checked : Service.checkFeed service.config request = .ok query)
    (keyed : query.key? = .ok key) :
    deployment.Recalls service key (service.rankFeed request) FeedResponse.IsWritable
      fun _ => False := by
  have counts (other : Deployment C R) : ∃ metrics, other.perform (service.rankFeed request) =
      { other with metrics := metrics }.perform (service.rankFeedChecked query) := by
    rw [Service.rankFeed, checked]
    exact ⟨_, rfl⟩
  refine recalls_of_count counts fun metrics => ?_
  have counted : { deployment with metrics := metrics }.tables.IsDated := dated
  exact rankFeedChecked_recalls counted keyed

/-- A list of similar posts is read as it was put together, and one with items was kept. -/
theorem similarPosts_recalls (dated : deployment.tables.IsDated) {request : SimilarRequest R}
    {query : SimilarQuery} (checked : Service.checkSimilar service.config request = .ok query) :
    deployment.Recalls service query.key (service.similarPosts request) SimilarResponse.IsWritable
      fun response => response.items ≠ [] := by
  rw [Service.similarPosts, checked]
  change deployment.Recalls service query.key (service.cached query.key >>= _) _ _
  refine recalls_of_leaves fun written metrics value later encoded absent ended => ?_
  obtain ⟨answer, middle, computed, ended⟩ := perform_bind_eq_ok ended
  have informs := reporting_informs (C := C) deployment.tables service query.requester query.key id
  obtain ⟨shows, same⟩ := perform_reporting encoded computed (Service.computeSimilar_shows informs)
  have free := (CacheStore.read_congr same.1 same.2).trans absent
  cases answer with
  | none =>
    cases ended
    exact .nothing free (not_not_intro rfl)
  | some response =>
    -- The items are dated as stored posts are, and such dates are read back as they were written.
    have moments := moments_of_dates dated fun item member =>
      deployment.tables.dates_of_shows (fun _ => id) (shows _ rfl item member)
    cases perform_keep_eq_ok encoded ended
    refine .document _ _ free rfl ⟨(by rintro ⟨⟩), SimilarResponse.isWritable_toJson, ?_⟩
    dsimp only
    rw [SimilarResponse.read_toJson, moments]
    rfl

end Deployment

variable [Score R] [Component C R] {service : Service R}

/-- The tasks that look under a key before they ask the stores, the values of theirs that can be
written, and those that are kept for sure. -/
inductive Service.Caches (service : Service R) :
    {α : Type} → CacheKey → Task C R α → (α → Prop) → (α → Prop) → Prop
  | following (identity : Text) : Caches service (.follows identity)
      (service.loadFollowing identity) IdSet.IsWritable fun _ => True
  | blocked (identity : Text) : Caches service (.blocks identity)
      (service.loadBlocked identity) IdSet.IsWritable fun _ => True
  | topics (identity : Text) : Caches service (.topics identity)
      (service.loadTopics identity) IdSet.IsWritable fun _ => True
  | seen (identity : Text) : Caches service (.seen identity)
      (service.loadSeen identity) SeenMap.IsWritable fun _ => True
  | profile (identity : Text) : Caches service (.profile identity) (service.loadProfile identity)
      (fun profile => ∀ given, profile = some given → given.IsWritable) fun _ => True
  | interest (identity : Text) : Caches service (.interestVector identity)
      (service.loadInterest identity)
      (fun vector => ∀ value, vector = some value → value.IsWritable depthLimit)
      fun vector => vector ≠ none
  | page {request : FeedRequest R} {query : FeedQuery R} {key : CacheKey}
      (checked : Service.checkFeed service.config request = .ok query)
      (keyed : query.key? = .ok key) :
      Caches service key (service.rankFeed request) FeedResponse.IsWritable fun _ => False
  | similar {request : SimilarRequest R} {query : SimilarQuery}
      (checked : Service.checkSimilar service.config request = .ok query) :
      Caches service query.key (service.similarPosts request) SimilarResponse.IsWritable
        fun response => response.items ≠ []

/-- Every cached value is read back as what it was made of: an empty set, no marks and the absence
of a profile are kept and found like all others. -/
theorem Deployment.recalls_of_caches {α : Type} {deployment : Deployment C R}
    (dated : deployment.tables.IsDated) {key : CacheKey} {task : Task C R α}
    {writable kept : α → Prop} (caches : service.Caches key task writable kept) :
    deployment.Recalls service key task writable kept := by
  cases caches with
  | following | blocked =>
    exact loadIds_recalls fun start later ids ended => (perform_query_eq_ok rfl ended).2
  | topics => exact loadTopics_recalls
  | seen => exact loadSeen_recalls dated
  | profile => exact loadProfile_recalls
  | interest => exact loadInterest_recalls
  | page checked keyed => exact rankFeed_recalls dated checked keyed
  | similar checked => exact similarPosts_recalls dated checked

theorem Deployment.Recalls.of_text {α : Type} {deployment later : Deployment C R} {key : CacheKey}
    {task : Task C R α} {writable kept : α → Prop}
    (recalls : deployment.Recalls service key task writable kept) {written : String} {value : α}
    (missed : deployment.Misses service key task written value later) (plain : writable value)
    {stored : CacheEntry R} (found : later.cache.read written = .found stored) :
    ∃ document, stored = .document document ∧ ∀ other : Deployment C R,
      other.cache.read written = .found (.text (Json.write document)) →
        ∃ metrics, other.perform task = (.ok value, { other with metrics := metrics }) := by
  obtain ⟨document, same, texts, reads⟩ := recalls.reads _ _ _ missed stored found
  have decoded := texts plain [] fun _ member => absurd member List.not_mem_nil
  rw [← Json.toList_write, String.ofList_toList] at decoded
  exact ⟨document, same, fun other there => reads _ other decoded there⟩

theorem Deployment.perform_of_toOption {α : Type} {deployment : Deployment C R} {task : Task C R α}
    {value : α} (shown : (deployment.perform task).1.toOption = some value) :
    deployment.perform task = (.ok value, (deployment.perform task).2) := by
  refine Prod.ext ?_ rfl
  cases ended : (deployment.perform task).1 with
  | error stop =>
    rw [ended] at shown
    cases shown
  | ok other =>
    rw [ended] at shown
    cases shown
    rfl

def reportedPost : Deployment ℚ ℚ :=
  { twoPosts with
    tables := { twoPosts.tables with follows := [("ann", "bob")] }
    fixedSearch := some [⟨"0f0e0d0c-0b0a-4908-8706-050403020100", 1 / 2, none⟩] }

def reportedPage : FeedResponse ℚ :=
  ⟨"ann", [⟨"0f0e0d0c-0b0a-4908-8706-050403020100", "bob", some "bob", none, none, some "first", [],
    "text", none, none, 0, 0, .ofTimestamp ⟨0, 0⟩, ⟨1 / 2, 0, 1, 1, 1, 1, 13 / 20⟩⟩], none, false⟩

theorem reportedPage_isWritable : reportedPage.IsWritable where
  identity := by decide
  next cursor same := by cases same
  items item member := by
    rw [List.mem_singleton.1 member]
    exact {
      texts := by decide
      options := by
        intro text member
        simp only [List.mem_cons, List.not_mem_nil, Option.some.injEq, reduceCtorEq, or_false,
          false_or] at member
        rcases member with rfl | rfl <;> decide
      saves := by decide
      comments := by decide
      scores := fun x member => Exact.isWritableNumber_of_dvd
        ((by decide +kernel : ∀ x ∈ [(1 / 2 : ℚ), 0, 1, 1, 1, 1, 13 / 20], x.den ∣ 10 ^ 6) x member) }

/-- That there is no profile of a person is kept, and so are whom a reader follows and the page of
the reader. The latter two are read back from their texts. -/
theorem Deployment.recalls_of_caches_of_twoPosts :
    let service : Service ℚ := .standard "discovery" ⟨0, 0⟩
    let load : Task ℚ ℚ (Option (Profile ℚ)) := service.loadProfile "dan"
    let follows : Task ℚ ℚ IdSet := service.loadFollowing "ann"
    let feed : Task ℚ ℚ (FeedResponse ℚ) := service.rankFeed ⟨"ann", .null, .null, []⟩
    reportedPost.tables.IsDated ∧
      (∃ written later stored metrics,
        reportedPost.Misses service (.profile "dan") load written none later ∧
          later.cache.read written = .found stored ∧
          later.perform load = (.ok none, { later with metrics := metrics })) ∧
      (∃ (document : Json ℚ) (later : Deployment ℚ ℚ),
        reportedPost.Misses service (.follows "ann") follows "discovery:follows:ann"
          (.ids ["bob"]) later ∧
        ∀ other : Deployment ℚ ℚ, other.cache.read "discovery:follows:ann" =
            .found (.text (Json.write document)) →
          ∃ metrics, other.perform follows =
            (.ok (.ids ["bob"]), { other with metrics := metrics })) ∧
      ∃ (document : Json ℚ) (later : Deployment ℚ ℚ),
        reportedPost.Misses service (.page "ann" "default" 20 none) feed
          "discovery:page:ann:default:20:start" reportedPage later ∧
        ∀ other : Deployment ℚ ℚ, other.cache.read "discovery:page:ann:default:20:start" =
            .found (.text (Json.write document)) →
          ∃ metrics, other.perform feed =
            (.ok reportedPage, { other with metrics := metrics }) := by
  intro service load follows feed
  have dated : reportedPost.tables.IsDated :=
    ⟨twoPosts_isSound.tables.dated.posts, twoPosts_isSound.tables.dated.seen⟩
  refine ⟨dated, ?_, ?_, ?_⟩
  · have caches : service.Caches (.profile "dan") load _ fun _ => True := .profile "dan"
    have recalls := recalls_of_caches dated caches
    have misses : reportedPost.Misses service (.profile "dan") load _ none
      (reportedPost.perform load).2 := ⟨rfl, rfl, rfl⟩
    obtain ⟨stored, found⟩ := recalls.keeps rfl _ _ _ misses trivial
    obtain ⟨document, rfl, -, reads⟩ := recalls.reads _ _ _ misses stored found
    obtain ⟨metrics, again⟩ := reads _ _ rfl found
    exact ⟨_, _, _, metrics, misses, found, again⟩
  · have caches : service.Caches (.follows "ann") follows _ fun _ => True := .following "ann"
    have recalls := recalls_of_caches dated caches
    have misses : reportedPost.Misses service (.follows "ann") follows "discovery:follows:ann"
      (.ids ["bob"]) (reportedPost.perform follows).2 :=
        ⟨rfl, rfl, perform_of_toOption (by decide +kernel)⟩
    have bob : ∀ id ∈ [("bob" : Text)], id.isWhole = true := by decide
    obtain ⟨stored, found⟩ := recalls.keeps rfl _ _ _ misses trivial
    obtain ⟨document, -, again⟩ := recalls.of_text misses bob found
    exact ⟨document, _, misses, again⟩
  · have keyed : FeedQuery.key? ⟨"ann", 20, none, []⟩ =
        (.ok (.page "ann" "default" 20 none) : Except (Fault ℚ) CacheKey) := by
      simp [FeedQuery.key?, Weights.fingerprint, Weights.changes, Weights.fingerprintOf]
      rfl
    have caches : service.Caches (.page "ann" "default" 20 none) feed _ fun _ => False :=
      .page (by rfl) keyed
    have recalls := recalls_of_caches dated caches
    have misses : reportedPost.Misses service (.page "ann" "default" 20 none) feed
        "discovery:page:ann:default:20:start" reportedPage (reportedPost.perform feed).2 :=
      ⟨rfl, rfl, perform_of_toOption (by decide +kernel)⟩
    obtain ⟨stored, found⟩ : ∃ stored, (reportedPost.perform feed).2.cache.read
        "discovery:page:ann:default:20:start" = .found stored :=
      CacheStore.exists_found (by decide +kernel) (by decide +kernel)
    obtain ⟨document, -, again⟩ := recalls.of_text misses reportedPage_isWritable found
    exact ⟨document, _, misses, again⟩

end PersonalFeed
