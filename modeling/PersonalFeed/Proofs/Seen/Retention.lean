import Mathlib.Tactic.NormNum
import Mathlib.Tactic.Ring
import PersonalFeed.Proofs.Coherence.Computations
import PersonalFeed.Proofs.Coherence.Orders
import PersonalFeed.Proofs.Exposure.Loading
import PersonalFeed.Proofs.Number.Exact
import PersonalFeed.Proofs.Pages.Evaluation
import PersonalFeed.Proofs.Seen.Marks
import PersonalFeed.Service.Retention

/-!
Three clocks for old marks: that of a purge, that of the request that filled the cache and that of
the request that is answered. None of them comes later than the last one, so whatever feeds and
purges came before, a feed takes every post for what the marks of the tables make it worth now.
Whatever a contract makes known of the marks that are loaded for a reader, lost or not, every item
of a page has its multiplier from such marks.
-/

set_option autoImplicit false

namespace PersonalFeed

/-! ### The marks that a feed goes by -/

variable {C R : Type}

/-- By a contract something is known of the marks that a feed of a person loads, and nothing has to
be known of the other values that it looks up. -/
structure Contract.Recalls [Numeral R] (contract : Contract C R) (service : Service R)
    (identity : Text) (known : Option SeenMap → Prop) : Prop where
  serves : contract.Serves
  takes : ∀ key : CacheKey, key.Feeds identity → key.IsProper → key ≠ .seen identity →
    ∀ value, contract.Takes service.root key value
  seen : (Task.attempt .seen (service.loadSeen identity)).Yields contract known

def Service.Recalls [Score R] (service : Service R) (known : Option SeenMap → Prop)
    (item : FeedItem R) : Prop :=
  ∃ seen days, known seen ∧
    daysSinceSeen service.config service.now (seen.getD []) item.postId = .ok days ∧
    item.scores.seen = shownScore (seenMultiplier days)

namespace Service

section

variable {contract : Contract C R} [Score R] [Component C R] {service : Service R}
variable {known : Option SeenMap → Prop}

theorem loadContext_recalls {identity : Text}
    (recalls : contract.Recalls service identity known) :
    (service.loadContext (C := C) identity).Yields contract fun context => known context.seen := by
  obtain ⟨serves, takes, seen⟩ := recalls
  have attempt {part : Part} {α : Type} {task : Task C R α}
      (yields : task.Yields contract fun _ => True) :
      (Task.attempt part task).Yields contract fun _ => True :=
    Task.yields_mono (Task.yields_attempt serves.count yields) fun _ _ => trivial
  refine Task.yields_bind (Task.yields_both (attempt ?interest) <|
    Task.yields_both (attempt ?following) <| Task.yields_both (attempt ?blocked) <|
    Task.yields_both seen <| Task.yields_both (attempt ?topics) (attempt ?profile))
    fun loaded both => Task.yields_pure both.2.2.2.1
  case interest =>
    exact loadInterest_yields serves (takes (.interestVector identity) rfl trivial nofun)
  case following =>
    refine loadIds_yields serves (fun _ _ _ _ => trivial) ?_
    refine Task.yields_query (serves.query _ rfl) fun _ _ => ⟨?_, trivial⟩
    exact takes (.follows identity) rfl trivial nofun _
  case blocked =>
    refine loadIds_yields serves (fun _ _ _ _ => trivial) ?_
    refine Task.yields_query (serves.query _ rfl) fun _ _ => ⟨?_, trivial⟩
    exact takes (.blocks identity) rfl trivial nofun _
  case topics => exact loadTopics_yields serves (takes (.topics identity) rfl trivial nofun)
  case profile => exact loadProfile_yields serves (takes (.profile identity) rfl trivial nofun)

theorem fetchPosts_serves (serves : contract.Serves) (ids : List Text) :
    (fetchPosts ids : Task C R (List (Post C))).Yields contract
      fun posts => ∀ post ∈ posts, True := by
  unfold fetchPosts
  split
  · exact Task.yields_pure fun _ _ => trivial
  · exact Task.yields_bind (Task.yields_query (P := fun _ => True) (serves.query _ rfl)
      fun _ _ => trivial) fun rows _ => Task.yields_ofBreakdown fun _ _ _ _ => trivial

omit [Score R] [Component C R] in
theorem fetchAuthors_serves (serves : contract.Serves) (ids : List Text) :
    (fetchAuthors ids : Task C R (List Author)).Yields contract fun _ => True := by
  cases ids with
  | nil => exact Task.yields_pure trivial
  | cons id rest =>
    exact Task.yields_query (q := .authors (id :: rest).eraseDups) (serves.query _ rfl)
      fun _ _ => trivial

theorem recalls_of_lists {reader : Text} {context : FeedContext R}
    {authors : Option (List Author)} {stored : Post C → Prop} {item : FeedItem R}
    (loaded : known context.seen) (lists : service.Lists reader context authors stored item) :
    service.Recalls known item := by
  obtain ⟨view, found, post, vector, c, diversity, final, same, -, -, made, rfl⟩ := lists
  obtain ⟨days, counted, share⟩ := seen_of_candidateOf made
  rw [same, ← post_of_candidateOf made] at counted
  exact ⟨context.seen, days, loaded, counted, congrArg shownScore share⟩

theorem computePage_recalls {query : FeedQuery R}
    (recalls : contract.Recalls service query.identity known) :
    (service.computePage (C := C) query).Yields contract
      fun page => ∀ item ∈ page.1.items, service.Recalls known item := by
  have serves := recalls.serves
  refine Task.yields_bind (loadContext_recalls recalls) fun context loaded => ?_
  refine Task.yields_bind (profileWeights_yields serves) fun own _ => ?_
  refine Task.yields_bind (Task.yields_ofRefusal (P := fun _ => True) fun _ _ => trivial)
    fun weights _ => ?_
  split
  · exact emptyPage_yields
  · refine Task.yields_bind (Task.yields_ofExcept (P := fun _ => True) fun _ _ => trivial)
      fun interest _ => ?_
    cases interest with
    | none => exact Task.yields_bind (count_yields serves _) fun _ _ => emptyPage_yields
    | some interest =>
      refine Task.yields_mono (computeFrom_lists serves (fetchPosts_serves serves)
        (fetchAuthors_serves serves)) fun page lists item member => ?_
      obtain ⟨authors, -, listed⟩ := lists item member
      exact recalls_of_lists loaded listed

theorem rankFeed_recalls [PlainText R] {request : FeedRequest R}
    (recalls : contract.Recalls service request.identity known) :
    (service.rankFeed (C := C) request).Yields contract fun _ => True := by
  have serves := recalls.serves
  refine Task.yields_bind (Task.yields_ofRefusal fun query checked => checked)
    fun query checked => ?_
  have asked := identity_of_checkFeed checked
  refine Task.yields_bind (count_yields serves _) fun _ _ => ?_
  refine Task.yields_bind (Task.yields_ofExcept fun fingerprint made => made)
    fun fingerprint made => ?_
  refine Task.yields_bind (cached_yields serves _) fun stored _ => ?_
  cases stored with
  | some value => exact Task.yields_ofExcept fun _ _ => trivial
  | none =>
    refine Task.yields_bind (computePage_recalls (asked ▸ recalls)) fun page _ => ?_
    obtain ⟨response, complete⟩ := page
    have takes := recalls.takes (.page query.identity fingerprint query.pageSize query.cursor) asked
      (proper_of_checkFeed checked made) nofun
    cases complete with
    | true =>
      exact Task.yields_bind (keep_yields (takes _)) fun _ _ => Task.yields_pure trivial
    | false => exact Task.yields_pure trivial

end

end Service

/-! ### Clocks -/

open Scalar

/-- The cached marks of a reader tell what the tables hold from a start on, and so do those that the
store answers with. -/
def marksTerms [Numeral R] (root : Text) (tables : Tables R) (reader : Text) (start : Int) :
    Terms C R where
  root := root
  asks query := query.isReading = true
  good key value := key = .seen reader → ∃ marks, value = SeenMap.toJson marks ∧
    tables.Tells reader start marks
  replies
    | .query (.seen identity since), reply => identity = reader → since.withoutZone.micros ≤ start →
        ∃ marks, reply = .answer marks ∧ tables.Tells reader start marks
    | _, _ => True

namespace Service

variable [Score R] {service : Service R} {tables : Tables R} {reader : Text} {start : Int}

/-- The marks of a reader are loaded, out of the cache or out of the store. -/
theorem loadSeen_ends (root : service.root.isWhole = true) (whole : reader.isWhole = true)
    (dated : tables.IsDated) {since : Timestamp}
    (started : retentionStart service.now service.config.ranking.seenRetentionDays = .ok since)
    (early : since.withoutZone.micros ≤ start) :
    (service.loadSeen reader : Task C R SeenMap).Ends
      (marksTerms service.root tables reader start).contract
      fun seen => ∃ marks, seen = .ofMarks marks ∧ tables.Tells reader start marks := by
  have written := written_of_whole (.seen reader) root (single_isWhole whole)
  have looked : (service.cached (.seen reader) : Task C R _).Ends
      (marksTerms service.root tables reader start).contract fun found =>
        found = none ∨ ∃ marks, found = some (SeenMap.toJson marks) ∧
          tables.Tells reader start marks := by
    refine cached_meets rfl (.seen reader) trivial (fun none => absurd none written)
      (fun _ => ⟨none, rfl, .inl rfl⟩) fun value _ good => ?_
    obtain ⟨marks, rfl, tells⟩ := good rfl
    exact ⟨_, rfl, .inr ⟨marks, rfl, tells⟩⟩
  -- Out of the cache or out of the store, the marks tell of the window alike.
  refine Task.ends_bind looked ?_
  rintro _ (rfl | ⟨marks, rfl, tells⟩)
  · dsimp only
    rw [started]
    refine Task.ends_bind (P := fun marks => tables.Tells reader start marks)
      (Task.ends_query rfl fun reply admitted => admitted rfl early) fun marks tells => ?_
    refine Task.ends_bind (P := fun _ => True) (keep_meets rfl (.seen reader) trivial
      (fun _ => ⟨marks, rfl, tells⟩) (fun none => absurd none written) fun _ => ⟨(), rfl, trivial⟩)
      fun _ _ => Task.ends_pure ⟨marks, rfl, tells⟩
  · have read : SeenMap.ofJson (SeenMap.toJson marks : Json R) = .ok (.ofMarks marks) :=
      SeenMap.ofJson_toJson fun mark member => dated.seen _ (tells.stored mark member)
    dsimp only
    rw [read]
    exact Task.ends_pure ⟨marks, rfl, tells⟩

end Service

/-- What comes before a feed: a feed of whoever, or a purge. -/
inductive Visit (R : Type) where
  | feed (now : Timestamp) (request : FeedRequest R)
  | purge (now : Timestamp)

def Visit.now : Visit R → Timestamp
  | feed now _ | purge now => now

def Visit.IsBefore (visit : Visit R) (later : Timestamp) : Prop :=
  visit.now.offset = 0 ∧ visit.now.micros ≤ later.micros

variable [Score R] [Component C R]

def Deployment.receive (service : Service R) (deployment : Deployment C R) :
    Visit R → Deployment C R
  | .feed now request => (deployment.perform ({ service with now := now }.rankFeed request)).2
  | .purge now =>
    (deployment.perform (Service.purgeSeen now service.config.ranking.seenRetentionDays)).2

def Deployment.receiveAll (service : Service R) (deployment : Deployment C R)
    (visits : List (Visit R)) : Deployment C R :=
  visits.foldl (receive service) deployment

/-- Nothing fails, the tables have lost no marks of the window, and the cache tells all of them that
it tells any of. -/
structure Deployment.Remembers (root : Text) (tables : Tables R) (reader : Text) (start : Int)
    (deployment : Deployment C R) : Prop where
  retains : tables.Retains deployment.tables start
  quiet : deployment.rules = []
  on : deployment.cache.isOn = true
  cache : deployment.cache.Holds root (marksTerms (C := C) root tables reader start).good

section

variable {service : Service R} {tables : Tables R} {reader : Text} {start : Int}
variable {deployment : Deployment C R}

theorem Deployment.keptBy_marks {root : Text} (whole : reader.isWhole = true)
    (retains : tables.Retains deployment.tables start) :
    (marksTerms root tables reader start).contract.KeptBy reply
      (Serves (marksTerms root tables reader start) deployment) := by
  intro call state serves allowed
  refine serves.goesOn (fun _ reading => reading) allowed ?_
  cases call with
  | query query =>
    cases query with
    | seen identity since =>
      rintro rfl early
      refine ⟨_, ?_, Tables.tells_seenSince retains early⟩
      rw [answers_query, Query.run, Query.flaw?, columnFlaw?_eq_none (Service.single_isWhole whole) rfl]
      rfl
    | interestVector | setInterestVector | profile | following | blocked | authors | content
    | recentSaves | interestSources | recordSeen | purgeSeen => trivial
  | search | retrieve | index | openIndex | read | write | delete | scan | count => trivial

namespace Service

variable (root : service.root.isWhole = true) (whole : reader.isWhole = true)
variable (dated : tables.IsDated)

include root whole dated

omit [Component C R] in
/-- A feed at an earlier moment asks for the marks of an earlier window, if for any. -/
theorem recalls_marks {now : Timestamp} (universal : now.offset = 0)
    (before : now.micros ≤ service.now.micros) (identity : Text) :
    (marksTerms (C := C) service.root tables reader
      (service.config.windowStart service.now)).contract.Recalls
        { service with now := now } identity fun _ => True := by
  have serves : (marksTerms (C := C) service.root tables reader
      (service.config.windowStart service.now)).contract.Serves :=
    Terms.serves fun _ reading => reading
  have takes (key : CacheKey) (proper : key.IsProper) (other : key ≠ .seen reader)
      (value : Json R) : (marksTerms (C := C) service.root tables reader
        (service.config.windowStart service.now)).contract.Takes service.root key value :=
    Terms.takes key proper fun same => absurd same other
  refine ⟨serves, fun key own proper other => takes key proper ?_, ?_⟩
  · rintro rfl
    cases own
    exact other rfl
  refine Task.yields_mono (Task.yields_attempt (P := fun _ => True) serves.count ?_)
    fun _ _ => trivial
  -- The feed of another reader looks up and keeps marks under another key.
  by_cases own : identity = reader
  · subst own
    cases started : retentionStart now service.config.ranking.seenRetentionDays with
    | ok since =>
      let earlier : Service R := { service with now := now }
      have rooted : earlier.root.isWhole = true := root
      exact Task.yields_mono (Task.yields_of_ends (loadSeen_ends rooted whole dated started
        (early_of_retentionStart universal before started))) fun _ _ => trivial
    | error cause =>
      refine Task.yields_bind (cached_yields serves _) fun found _ => ?_
      cases found with
      | some value => exact Task.yields_ofBreakdown fun _ _ => trivial
      | none =>
        dsimp only
        rw [started]
        exact Task.yields_bind (P := fun _ => False) (Task.yields_fail _ _)
          fun _ absurd => absurd.elim
  · exact loadSeen_yields serves (takes (.seen identity) trivial fun same => own (by cases same; rfl))

variable [PlainText R]

theorem remembers_receive (remembers : deployment.Remembers service.root tables reader
      (service.config.windowStart service.now))
    {visit : Visit R} (before : visit.IsBefore service.now) :
    (deployment.receive service visit).Remembers service.root tables reader
      (service.config.windowStart service.now) := by
  obtain ⟨retains, quiet, on, cache⟩ := remembers
  cases visit with
  | feed now request =>
    -- A feed leaves the tables and keeps only marks that tell, and a purge takes only marks that
    -- are too old to count.
    have recalls := recalls_marks (C := C) root whole dated before.1 before.2
      request.identity
    have after := (Program.meets_run (Deployment.keptBy_marks whole retains)
      (rankFeed_recalls recalls) deployment ⟨⟨rfl, rfl, rfl, rfl⟩, quiet, on, cache⟩).2
    exact ⟨after.same.tables ▸ retains, after.quiet, after.on, after.cache⟩
  | purge now =>
    unfold Deployment.receive purgeSeen
    dsimp only
    cases started : retentionStart now service.config.ranking.seenRetentionDays with
    | error cause => exact ⟨retains, quiet, on, cache⟩
    | ok since =>
      have ended := Deployment.perform_query quiet (.purgeSeen since)
      change (deployment.perform (Task.query (.purgeSeen since) >>= fun purged =>
        Task.count (.purged purged) >>= fun _ => pure purged)).2.Remembers _ _ _ _
      rw [Deployment.perform_bind_ok ended]
      exact ⟨Tables.retains_purgeSeen retains (early_of_retentionStart before.1 before.2 started),
        quiet, on, cache⟩

theorem remembers_receiveAll (remembers : deployment.Remembers service.root tables reader
      (service.config.windowStart service.now))
    {visits : List (Visit R)} (before : ∀ visit ∈ visits, visit.IsBefore service.now) :
    (deployment.receiveAll service visits).Remembers service.root tables reader
      (service.config.windowStart service.now) := by
  induction visits generalizing deployment with
  | nil => exact remembers
  | cons visit rest ih =>
    exact ih (remembers_receive root whole dated remembers (before visit List.mem_cons_self))
      fun other member => before other (List.mem_cons_of_mem _ member)

omit dated in
/-- After any feeds and purges by clocks that are not ahead, whoever they were for, the marks that a
reader's feed goes by are those of the tables before all of them: a post is worth its recovery up to
the end of the window, and the same as an unseen one after it. -/
theorem feed_after_visits (universal : service.now.offset = 0)
    (window : ∃ since, retentionStart service.now service.config.ranking.seenRetentionDays =
      .ok since)
    (exact : ∀ mark ∈ deployment.tables.seen,
      lt (ofInt service.config.ranking.seenRetentionDays) (mark.moment.daysUntil service.now : R) =
        decide (service.config.ranking.seenRetentionDays * Timestamp.microsPerDay <
          service.now.micros - mark.moment.micros))
    (dated : deployment.tables.IsDated) (distinct : (deployment.tables.seen.map Mark.key).Nodup)
    (quiet : deployment.rules = []) (on : deployment.cache.isOn = true)
    (unread : deployment.cache.Holds service.root fun key _ => key ≠ .seen reader)
    {visits : List (Visit R)} (before : ∀ visit ∈ visits, visit.IsBefore service.now) :
    let after := deployment.receiveAll service visits
    let worth (post : Text) : R := deployment.tables.seenScore
      service.config.ranking.seenRetentionDays service.now reader post
    (∃ seen, (after.perform (service.loadSeen reader)).1 = .ok seen ∧ ∀ post,
      (daysSinceSeen service.config service.now seen post).map seenMultiplier =
        .ok (worth post)) ∧
    ∀ query page, query.identity = reader →
      (after.perform (service.computePage query)).1 = .ok page →
        ∀ item ∈ page.1.items, item.scores.seen = shownScore (worth item.postId) := by
  intro after worth
  obtain ⟨since, started⟩ := window
  have remembers : after.Remembers service.root deployment.tables reader
      (service.config.windowStart service.now) := by
    refine remembers_receiveAll root whole dated ⟨Tables.retains_self _ _, quiet, on, ?_⟩ before
    exact CacheStore.holds_mono unread fun key _ other same => absurd same other
  have serves : Deployment.Serves (marksTerms service.root deployment.tables reader
      (service.config.windowStart service.now)) after after :=
    ⟨⟨rfl, rfl, rfl, rfl⟩, remembers.quiet, remembers.on, remembers.cache⟩
  have kept : (marksTerms service.root deployment.tables reader
      (service.config.windowStart service.now)).contract.KeptBy Deployment.reply
        (Deployment.Serves _ after) :=
    Deployment.keptBy_marks whole remembers.retains
  have loads := loadSeen_ends (C := C) root whole dated started
    (early_of_retentionStart universal (Int.le_refl _) started)
  -- Whatever marks tell of the window, a post is worth by them what it is by the tables.
  have worths {marks : List (Text × Timestamp)} (tells : deployment.tables.Tells reader
      (service.config.windowStart service.now) marks) (post : Text) :
      (daysSinceSeen service.config service.now (.ofMarks marks) post).map seenMultiplier =
        .ok (worth post) :=
    Tables.seenMultiplier_of_tells distinct
      (fun mark found => exact mark (Tables.of_mark? found).1) tells
  constructor
  · obtain ⟨_, ended, marks, rfl, tells⟩ := (Program.meets_run kept loads after serves).1
    exact ⟨_, ended, worths tells⟩
  · rintro query page rfl ended item member
    have recalls := recalls_marks (C := C) root whole dated universal
      (Int.le_refl _) query.identity
    have pages := computePage_recalls ⟨recalls.serves, recalls.takes,
      Task.yields_of_ends (Task.ends_attempt loads)⟩
    obtain ⟨_, days, ⟨_, rfl, marks, rfl, tells⟩, counted, shown⟩ :=
      (Program.meets_run kept pages after serves).1 page ended item member
    have worth := worths tells item.postId
    rw [Option.getD_some] at counted
    rw [counted] at worth
    rw [shown, Except.ok.inj worth]

end Service

end

theorem Exact.lt_daysUntil (days : Int) (earlier later : Timestamp) :
    lt (ofInt days) (earlier.daysUntil later : ℚ) =
      decide (days * Timestamp.microsPerDay < later.micros - earlier.micros) := by
  have count : (earlier.daysUntil later : ℚ) =
      ((later.micros - earlier.micros : Int) : ℚ) / (Timestamp.microsPerDay : Int) := by
    simp only [Timestamp.daysUntil, Timestamp.secondsUntil, Exact.ratio_eq, Exact.ofInt_eq,
      Timestamp.microsPerDay]
    push_cast
    ring
  rw [count, Exact.ofInt_eq]
  refine decide_eq_decide.2 ((lt_div_iff₀ (by decide +kernel)).trans ?_)
  exact_mod_cast Iff.rfl

def twoMarks : Deployment ℚ ℚ :=
  { Deployment.empty with tables := { Tables.empty with
      seen := [⟨"ann", "later", ⟨0, 0⟩⟩, ⟨"ann", "earlier", ⟨-1, 0⟩⟩] } }

/-- With a window of a day, a feed just before its end and a purge at its end make no difference:
the later post has recovered for a day and the earlier one counts as unseen. -/
theorem feed_after_visits_of_twoMarks :
    let now : Timestamp := ⟨86400000000, 0⟩
    let config : Config ℚ := ⟨.default, { RankingSettings.standard with seenRetentionDays := 1 },
      .standard⟩
    let service : Service ℚ := ⟨config, "discovery", none, now⟩
    let after := twoMarks.receiveAll service
      [.feed ⟨86399999998, 0⟩ ⟨"ann", .int 1, .null, []⟩, .purge now]
    ∃ seen, (after.perform (service.loadSeen "ann")).1 = .ok seen ∧
      (daysSinceSeen config now seen "later").map seenMultiplier = .ok (recovery 1) ∧
      (daysSinceSeen config now seen "earlier").map seenMultiplier = .ok (one : ℚ) := by
  intro now config service after
  have before : ∀ visit ∈ [Visit.feed ⟨86399999998, 0⟩ ⟨"ann", .int 1, .null, []⟩, .purge now],
      visit.IsBefore (R := ℚ) service.now := by
    intro visit member
    rcases List.mem_pair.1 member with rfl | rfl <;> exact ⟨rfl, by decide⟩
  have dated : twoMarks.tables.IsDated := by
    refine ⟨fun row member => absurd member List.not_mem_nil, fun mark member => ?_⟩
    rcases List.mem_pair.1 member with rfl | rfl <;> exact ⟨rfl, by decide⟩
  have shown : ∃ seen, (after.perform (service.loadSeen "ann")).1 = .ok seen ∧
      ∀ post, (daysSinceSeen config now seen post).map seenMultiplier =
        .ok (twoMarks.tables.seenScore 1 now "ann" post) :=
    (Service.feed_after_visits rfl (by decide) rfl ⟨_, rfl⟩
      (fun mark _ => Exact.lt_daysUntil 1 mark.moment now) dated (by decide) rfl rfl
      (CacheStore.holds_of_empty rfl) before).1
  obtain ⟨seen, loaded, worth⟩ := shown
  refine ⟨seen, loaded, (worth "later").trans ?_, (worth "earlier").trans ?_⟩
  · have age : ((⟨0, 0⟩ : Timestamp).daysUntil now : ℚ) = 1 := by
      norm_num [Timestamp.daysUntil, Timestamp.secondsUntil, now]
    exact congrArg (fun days => Except.ok (recovery days)) age
  · rfl

end PersonalFeed
