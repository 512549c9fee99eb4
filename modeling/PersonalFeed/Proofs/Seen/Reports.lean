import PersonalFeed.Proofs.Interest
import PersonalFeed.Proofs.PostIds
import PersonalFeed.Proofs.Seen.Marks

/-!
Reports of impressions. One that is refused or that the store does not take changes nothing at all.
Any other one marks each post that it names, and of the cache it drops what was made of the reader's
older marks.
-/

set_option autoImplicit false

namespace PersonalFeed

variable {C R : Type}

/-- Under the key of a row that was added there is that row, and under any other what there was. -/
theorem find?_upsert {α κ : Type} [DecidableEq κ] (key : α → κ) (row : α) (rows : List α) (k : κ) :
    (upsert key row rows).find? (fun other => key other = k) =
      if key row = k then some row else rows.find? fun other => key other = k := by
  induction rows with
  | nil => by_cases own : key row = k <;> simp [upsert, own]
  | cons head rest ih =>
    rw [upsert]
    by_cases same : key head = key row
    · by_cases own : key row = k <;> simp [same, own]
    · rw [if_neg same, List.find?_cons, ih]
      by_cases first : key head = k
      · simp [first, show key row ≠ k from fun own => same (first.trans own.symm)]
      · simp [first]

namespace Tables

variable {tables middle after : Tables R} {reader post : Text} {posts : List Text}
variable {moment : Timestamp}

/-- The marks of some posts for a reader are of one moment, and all else is as it was. -/
structure IsMarked (reader : Text) (posts : List Text) (moment : Timestamp)
    (tables after : Tables R) : Prop where
  others : after = { tables with seen := after.seen }
  marks : ∀ person post, after.mark? person post =
    if person = reader ∧ post ∈ posts then some ⟨person, post, moment⟩
    else tables.mark? person post
  /-- Whatever leaves these marks out selects the same marks in the same order. -/
  kept : ∀ p : Mark → Bool, (∀ mark, mark.user = reader → mark.post ∈ posts → p mark = false) →
    after.seen.filter p = tables.seen.filter p
  distinct : (tables.seen.map Mark.key).Nodup → (after.seen.map Mark.key).Nodup

theorem isMarked_nil (tables : Tables R) : tables.IsMarked reader [] moment tables where
  others := rfl
  marks := by simp
  kept _ _ := rfl
  distinct unique := unique

theorem isMarked_addSeen (added : tables.addSeen ⟨reader, post, moment⟩ = .ok after) :
    tables.IsMarked reader [post] moment.withoutZone after := by
  obtain ⟨-, rfl⟩ := ok_of_refusing added
  constructor
  · rfl
  · intro person other
    have found := find?_upsert Mark.key ⟨reader, post, moment.withoutZone⟩ tables.seen
      (person, other)
    rw [mark?, found]
    by_cases own : person = reader ∧ other = post
    · obtain ⟨rfl, rfl⟩ := own
      simp [Mark.key]
    · have apart : ¬ (reader = person ∧ post = other) := fun same => own ⟨same.1.symm, same.2.symm⟩
      simp [Mark.key, mark?, own, apart]
  · intro p out
    apply filter_upsert
    intro mark same
    obtain ⟨own, named⟩ := Prod.ext_iff.1 same
    exact out mark own (List.mem_singleton.2 named)
  · exact nodup_upsert

theorem IsMarked.cons (first : tables.IsMarked reader [post] moment middle)
    (later : middle.IsMarked reader posts moment after) :
    tables.IsMarked reader (post :: posts) moment after where
  others := by rw [later.others, first.others]
  marks person other := by
    rw [later.marks, first.marks]
    by_cases own : person = reader
    · by_cases inside : other ∈ posts <;> simp [own, inside]
    · simp [own]
  kept p out := by
    rw [later.kept p fun mark own inside => out mark own (List.mem_cons_of_mem _ inside)]
    apply first.kept p
    intro mark own inside
    exact out mark own (List.mem_singleton.1 inside ▸ List.mem_cons_self)
  distinct unique := later.distinct (first.distinct unique)

theorem isMarked_recordSeen (stored : tables.recordSeen reader posts moment = .ok after) :
    tables.IsMarked reader posts moment.withoutZone after := by
  unfold recordSeen at stored
  induction posts generalizing tables with
  | nil =>
    cases stored
    exact isMarked_nil _
  | cons post rest ih =>
    rw [List.foldlM_cons] at stored
    obtain ⟨middle, added, stored⟩ := ok_of_bind stored
    exact (isMarked_addSeen added).cons (ih stored)

theorem recordSeen_isOk (reads : reader.isWhole = true)
    (named : ∀ post ∈ posts, post.isWhole = true) (tables : Tables R) (moment : Timestamp) :
    ∃ after, tables.recordSeen reader posts moment = .ok after := by
  unfold recordSeen
  induction posts generalizing tables with
  | nil => exact ⟨tables, rfl⟩
  | cons post rest ih =>
    have flawless : Mark.flaw? ⟨reader, post, moment.withoutZone⟩ = none :=
      columnFlaw?_eq_none (by simp [reads, named]) rfl
    rw [List.foldlM_cons, addSeen]
    dsimp only
    rw [flawless]
    exact ih (fun other inside => named other (List.mem_cons_of_mem _ inside)) _

end Tables

namespace Service

variable {identity : Text} {posts : List (Json R)}

def reportedIds (posts : List (Json R)) : List Text :=
  ((posts.filterMap Json.text?).map Text.lower).eraseDups

/-- A report in order: of a reader, on up to 500 posts, all of them under accepted spellings of
their ids. -/
structure IsReport (identity : Text) (posts : List (Json R)) : Prop where
  named : identity.isEmpty = false
  some : posts ≠ []
  few : posts.length ≤ impressionLimit
  spelled : ∀ given ∈ posts, ∃ text, given = .string text ∧ PostId.Spells text

theorem isWhole_of_reportedIds (report : IsReport identity posts) :
    ∀ post ∈ reportedIds posts, post.isWhole = true := by
  intro post member
  obtain ⟨spelling, inside, rfl⟩ := List.mem_map.1 (List.mem_eraseDups.1 member)
  obtain ⟨given, there, written⟩ := List.mem_filterMap.1 inside
  obtain ⟨text, rfl, spells⟩ := report.spelled given there
  cases written
  obtain ⟨n, -, same⟩ := Option.map_eq_some_iff.1 spells
  rw [← same]
  exact PostId.isWhole_write n

theorem mapM_check_ok_iff {field : Text} {ids : List Text} :
    posts.mapM (PostId.check field) = .ok ids ↔
      (∀ given ∈ posts, ∃ text, given = .string text ∧ PostId.Spells text) ∧
        ids = (posts.filterMap Json.text?).map Text.lower := by
  rw [mapM_ok_iff]
  induction posts generalizing ids with
  | nil => simp
  | cons given rest ih =>
    simp only [List.forall₂_cons_left_iff, ih]
    simp only [PostId.check_eq_ok_iff, List.forall_mem_cons]
    constructor
    · rintro ⟨id, later, ⟨text, rfl, spells, rfl⟩, ⟨spelled, rfl⟩, rfl⟩
      exact ⟨⟨⟨text, rfl, spells⟩, spelled⟩, rfl⟩
    · rintro ⟨⟨⟨text, rfl, spells⟩, spelled⟩, rfl⟩
      exact ⟨text.lower, _, ⟨text, rfl, spells, rfl⟩, ⟨spelled, rfl⟩, rfl⟩

theorem checkImpressions_ok_iff {ids : List Text} :
    checkImpressions identity posts = .ok ids ↔
      IsReport identity posts ∧ ids = reportedIds posts := by
  constructor
  · intro checked
    unfold checkImpressions at checked
    split at checked
    -- The checks were passed one after another, which is what a report in order is.
    · cases checked
    rename_i named
    split at checked
    · cases checked
    rename_i counted
    obtain ⟨found, each, checked⟩ := ok_of_bind checked
    obtain ⟨spelled, rfl⟩ := mapM_check_ok_iff.1 each
    simp only [List.isEmpty_iff, not_or, not_lt] at counted
    cases checked
    exact ⟨⟨Bool.eq_false_iff.2 named, counted.1, counted.2, spelled⟩, rfl⟩
  · rintro ⟨report, rfl⟩
    have counted : ¬ (posts.isEmpty = true ∨ impressionLimit < posts.length) := by
      simpa [report.some] using report.few
    rw [checkImpressions, report.named, if_neg Bool.false_ne_true, if_neg counted,
      mapM_check_ok_iff.2 ⟨report.spelled, rfl⟩]
    rfl

end Service

variable [Score R] [Component C R]

namespace Service

variable {service : Service R} {deployment after : Deployment C R} {identity : Text}
variable {posts : List (Json R)}

def marking (service : Service R) (identity : Text) (posts : List (Json R)) : Task C R Unit :=
  Task.bounded Task.databaseName
    (Task.query (.recordSeen identity (reportedIds posts) service.now))

/-- A store at work takes the marks of every reader whose id has a form in bytes. -/
theorem perform_marking (service : Service R) (quiet : deployment.rules = [])
    (whole : identity.isWhole = true) (report : IsReport identity posts) :
    ∃ tables, deployment.perform (service.marking identity posts) =
      (.ok (), { deployment with tables := tables }) := by
  have named := isWhole_of_reportedIds report
  obtain ⟨tables, recorded⟩ := Tables.recordSeen_isOk whole named deployment.tables service.now
  have flawless : (Query.recordSeen identity (reportedIds posts) service.now : Query R).flaw? =
      none := columnFlaw?_eq_none (by simpa [whole] using named) rfl
  have ran : (Query.recordSeen identity (reportedIds posts) service.now).run deployment.tables =
      .ok ((), tables) := by
    rw [Query.run, flawless]
    dsimp only [Query.answer]
    rw [recorded]
    rfl
  have stored := Deployment.perform_order quiet Task.databaseName
    (.recordSeen identity (reportedIds posts) service.now)
  rw [ran] at stored
  exact ⟨tables, stored⟩

/-- A report that is refused, or whose marks the store does not take, changes neither the tables
nor the cache. Any other report marks the posts that it names, says how many those are, and drops
what was made of the reader's older marks. -/
theorem recordImpressions_reports (rooted : service.root.isWhole = true)
    {result : Except (Stop R) Nat}
    (ended : deployment.perform (service.recordImpressions identity posts) = (result, after)) :
    match result with
    | .error stop =>
      after.tables = deployment.tables ∧ after.cache = deployment.cache ∧
        (¬ IsReport identity posts → ∃ cause, stop = .fault (.refused cause)) ∧
        (IsReport identity posts →
          (deployment.perform (service.marking identity posts)).1 = .error stop ∧
          (deployment.rules = [] → identity.isWhole = false))
    | .ok count =>
      IsReport identity posts ∧ count = (reportedIds posts).length ∧
        deployment.tables.IsMarked identity (reportedIds posts) service.now.withoutZone
          after.tables ∧
        service.DropsOwn (.seen identity) identity deployment.cache after.cache := by
  rw [recordImpressions] at ended
  cases checked : checkImpressions identity posts with
  | error cause =>
    rw [checked] at ended
    cases ended
    refine ⟨rfl, rfl, fun _ => ⟨cause, rfl⟩, fun report => ?_⟩
    have accepted := checkImpressions_ok_iff.2 ⟨report, rfl⟩
    cases checked.symm.trans accepted
  | ok ids =>
    obtain ⟨report, rfl⟩ := checkImpressions_ok_iff.1 checked
    rw [checked] at ended
    obtain ⟨rules, ⟨stop, failed⟩ | ⟨answer, tables, ran, stored⟩⟩ :=
      Deployment.perform_order_cases deployment Task.databaseName
        (.recordSeen identity (reportedIds posts) service.now)
    · cases ended.symm.trans (Deployment.perform_bind_error failed _)
      refine ⟨rfl, rfl, fun refused => absurd report refused, fun _ => ⟨?_, fun quiet => ?_⟩⟩
      · exact congrArg Prod.fst failed
      · rw [Bool.eq_false_iff]
        intro whole
        obtain ⟨tables, stored⟩ := perform_marking service quiet whole report
        cases failed.symm.trans stored
    -- The tables took the marks, so the id has a byte form, and the keys to drop can be written.
    · have changed := ended.symm.trans (Deployment.perform_bind_ok stored _)
      obtain ⟨flawless, answered⟩ := Tables.ok_of_run ran
      obtain ⟨_, recorded, same⟩ := ok_of_map answered
      cases same
      have whole := isWhole_of_columnFlaw? flawless identity List.mem_cons_self
      obtain ⟨cache, dropped, drops⟩ := perform_dropOwn
        { deployment with rules := rules, tables := tables } rooted report.named whole
        (.seen identity) rfl (reportedIds posts).length
      cases changed.trans dropped
      exact ⟨report, rfl, Tables.isMarked_recordSeen recorded, drops⟩

omit [Score R] [Component C R] in
/-- The pages of another reader are not among what goes with a value of a reader. -/
theorem not_holds_page {set : CacheKey} (other : set.artifact ≠ .feedPage) {person : Text}
    (free : identity.Lacks ':') (free' : person.Lacks ':') (apart : person ≠ identity)
    {fingerprint : Text} {size : Int} {cursor : Option Text} {written : String}
    (page : (service.key (.page person fingerprint size cursor)).toString? = some written) :
    ¬ service.Holds set identity written := by
  rintro ⟨key, own, found⟩
  have same := congrArg Text.codes ((Text.ofString_of_toString? page).symm.trans
    (Text.ofString_of_toString? found))
  rw [Service.key, Service.key, CacheKey.codes_text, CacheKey.codes_text,
    List.append_cancel_left_eq] at same
  obtain ⟨names, bodies⟩ := split_at_first (CacheKey.keyName_lacks _) (CacheKey.keyName_lacks _)
    (List.cons.inj same).2
  rcases own with rfl | ⟨fingerprint', size', cursor', rfl⟩
  · exact other (CacheKey.keyName_inj names).symm
  · rw [CacheKey.page_body, CacheKey.page_body] at bodies
    exact apart (Text.codes_inj (split_at_first free' free bodies).1)

end Service

def twoReaders : Deployment ℚ ℚ :=
  { twoPosts with cache :=
    ⟨[("discovery:seen:ann", .document (.object [])),
      ("discovery:page:ann:default:20:start", .document .null),
      ("discovery:page:bob:default:20:start", .document .null)], [], true⟩ }

theorem twoReaders_isKeyed :
    (Service.standard "discovery" ⟨0, 0⟩ : Service ℚ).IsKeyed twoReaders.cache := by
  intro entry member
  simp only [twoReaders, List.mem_cons, List.not_mem_nil, or_false] at member
  rcases member with rfl | rfl | rfl
  · exact ⟨.seen "ann", by decide, by decide⟩
  · exact ⟨.page "ann" "default" 20 none, by decide, by decide⟩
  · exact ⟨.page "bob" "default" 20 none, by decide, by decide⟩

theorem reportedIds_spellings :
    let posts : List (Json ℚ) := [.string "0F0E0D0C-0B0A-4908-8706-050403020100",
      .string "0f0e0d0c-0b0a-4908-8706-050403020100"]
    Service.IsReport "ann" posts ∧ Service.reportedIds posts =
      ([Text.ofString "0f0e0d0c-0b0a-4908-8706-050403020100"] : List Text) := by
  intro posts
  have upper : PostId.Spells "0F0E0D0C-0B0A-4908-8706-050403020100" := by
    unfold PostId.Spells; decide +kernel
  have lower : PostId.Spells "0f0e0d0c-0b0a-4908-8706-050403020100" := by
    unfold PostId.Spells; decide +kernel
  have lowered : Text.lower "0F0E0D0C-0B0A-4908-8706-050403020100" =
      "0f0e0d0c-0b0a-4908-8706-050403020100" := by decide +kernel
  have lowered' : Text.lower "0f0e0d0c-0b0a-4908-8706-050403020100" =
      "0f0e0d0c-0b0a-4908-8706-050403020100" := by decide +kernel
  constructor
  · refine ⟨by decide, List.cons_ne_nil _ _, by decide, fun given member => ?_⟩
    rcases List.mem_pair.1 member with rfl | rfl
    · exact ⟨_, rfl, upper⟩
    · exact ⟨_, rfl, lower⟩
  · simp [Service.reportedIds, posts, Json.text?, lowered, lowered', List.eraseDups_cons]

/-- A post that is reported under two spellings is marked once, and of both readers' pages the ones
of the other reader stay. -/
theorem recordImpressions_reports_of_twoReaders :
    let service : Service ℚ := .standard "discovery" ⟨0, 0⟩
    let posts : List (Json ℚ) := [.string "0F0E0D0C-0B0A-4908-8706-050403020100",
      .string "0f0e0d0c-0b0a-4908-8706-050403020100"]
    service.root.isWhole = true ∧ service.IsKeyed twoReaders.cache ∧
      ∃ after, twoReaders.perform (service.recordImpressions (C := ℚ) "ann" posts) =
          (.ok 1, after) ∧
        twoReaders.tables.IsMarked "ann" ["0f0e0d0c-0b0a-4908-8706-050403020100"] ⟨0, 0⟩
          after.tables ∧
        after.cache.entry? "discovery:seen:ann" = none ∧
        after.cache.entry? "discovery:page:ann:default:20:start" = none ∧
        after.cache.entry? "discovery:page:bob:default:20:start" =
          twoReaders.cache.entry? "discovery:page:bob:default:20:start" := by
  intro service posts
  obtain ⟨report, once⟩ : Service.IsReport "ann" posts ∧ Service.reportedIds posts = _ :=
    reportedIds_spellings
  have keyed : service.IsKeyed twoReaders.cache := twoReaders_isKeyed
  refine ⟨rfl, keyed, ?_⟩
  generalize ended : twoReaders.perform (service.recordImpressions (C := ℚ) "ann" posts) = outcome
  obtain ⟨result, after⟩ := outcome
  have told := Service.recordImpressions_reports rfl ended
  cases result with
  | error stop => exact absurd ((told.2.2.2 report).2 rfl) (by decide)
  | ok count =>
    obtain ⟨-, counted, marked, drops⟩ := told
    rw [once] at counted marked
    subst counted
    have stays := drops.exact (by decide) (by decide) (by decide) rfl keyed
    have page (person : Text) : CacheKey.IsPageOf person (.page person "default" 20 none) :=
      ⟨"default", 20, none, rfl⟩
    have other : (service.key (.page "bob" "default" 20 none)).toString? =
        some "discovery:page:bob:default:20:start" := by decide
    refine ⟨after, rfl, marked, ?_, ?_, ?_⟩
    · exact (stays _).1 ⟨.seen "ann", .inl rfl, by decide⟩
    · exact (stays _).1 ⟨_, .inr (page "ann"), by decide⟩
    · apply (stays _).2
      exact Service.not_holds_page (by decide) (by decide) (by decide) (by decide) other

end PersonalFeed
