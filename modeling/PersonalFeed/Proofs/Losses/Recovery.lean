import PersonalFeed.Proofs.Losses.Absence
import PersonalFeed.Proofs.Pages.Precedence

/-!
Feeds with soft losses are not kept. What they leave in the cache is right, and no page is among it,
so once the stores are back the feed is made anew of all there is.
-/

set_option autoImplicit false

namespace PersonalFeed

variable {C R α β : Type}

def Contract.free : Contract C R where
  allows _ := True
  admits _ _ := True

theorem Program.eval_of_discloses {contract : Contract C R} {spares : String → Prop}
    {good : α → Prop} {program : Program C R α} {intact : Prop} {answers : Answers C R}
    (discloses : program.Discloses contract spares good intact)
    (admitted : ∀ call, contract.admits call (answers call))
    (holds : good (program.eval answers)) : intact := by
  induction program generalizing intact with
  | done value => exact discloses holds
  | ask call next ih => exact (ih _ (discloses.2 _ (.inr (admitted call))) holds).1

theorem Task.ok_of_both {answers : Answers C R} {first : Task C R α} {second : Task C R β} {a : α}
    {b : β} (ended : (both first second).eval answers = .ok (a, b)) :
    first.eval answers = .ok a ∧ second.eval answers = .ok b := by
  rw [eval_both] at ended
  obtain ⟨_, left, ended⟩ := ok_of_bind ended
  obtain ⟨_, right, ended⟩ := ok_of_bind ended
  cases ended
  exact ⟨left, right⟩

variable [Score R] [Component C R]

namespace Service

variable {service : Service R} {deployment : Deployment C R} {losses : SoftLosses}

theorem carriesFeed_free (reader : Text) :
    (Contract.free : Contract C R).CarriesFeed service reader :=
  carriesFeed_of_takes ⟨fun _ _ => trivial, fun _ _ _ => trivial, fun _ => trivial,
    fun _ => trivial, fun _ => trivial⟩ (fun _ _ _ _ => trivial) reader

section

variable {part : SoftPart} {failure : Failure} (lost : losses part = some failure)
variable {reader : Text} (root : service.root.isWhole = true) (whole : reader.isWhole = true)

include lost root whole

theorem loadContext_incomplete {context : FeedContext R}
    (loaded : (service.loadContext reader).eval (deployment.answersBut losses) = .ok context) :
    context.isComplete = false := by
  unfold loadContext at loaded
  rw [Task.eval_bind] at loaded
  obtain ⟨⟨interest, following, blocked, seen, topics, profile⟩, gathered, made⟩ := ok_of_bind loaded
  cases made
  obtain ⟨-, gathered⟩ := Task.ok_of_both gathered
  obtain ⟨followed, gathered⟩ := Task.ok_of_both gathered
  obtain ⟨-, gathered⟩ := Task.ok_of_both gathered
  obtain ⟨marked, gathered⟩ := Task.ok_of_both gathered
  obtain ⟨saved, known⟩ := Task.ok_of_both gathered
  -- The part that is lost leaves its attempt without a value, and so the context is not complete.
  cases part with
  | follows =>
    rw [Task.eval_attempt_failed _ (eval_loadFollowing_lost root whole lost)] at followed
    cases followed
    simp [FeedContext.isComplete]
  | topics =>
    rw [Task.eval_attempt_failed _ (eval_loadTopics_lost root whole lost)] at saved
    cases saved
    simp [FeedContext.isComplete]
  | profile =>
    rw [Task.eval_attempt_failed _ (eval_loadProfile_lost root whole lost)] at known
    cases known
    simp [FeedContext.isComplete]
  | seen =>
    cases start : retentionStart service.now service.config.ranking.seenRetentionDays with
    -- Here the attempt fails earlier, on the start of the retention, which ends the same way.
    | error cause =>
      rw [Task.eval_attempt, eval_loadSeen_unstarted root whole Deployment.isCold_answersBut start]
        at marked
      cases marked
    | ok since =>
      rw [Task.eval_attempt_failed _ (eval_loadSeen_lost root whole lost start)] at marked
      cases marked
      simp [FeedContext.isComplete]

theorem computePage_incomplete {query : FeedQuery R} (own : query.identity = reader)
    {response : FeedResponse R} {complete : Bool}
    (computed : (service.computePage query).eval (deployment.answersBut losses) =
      .ok (response, complete)) : complete = false := by
  unfold computePage at computed
  rw [own, Task.eval_bind] at computed
  obtain ⟨context, loaded, computed⟩ := ok_of_bind computed
  have incomplete := loadContext_incomplete lost root whole loaded
  rw [Task.eval_bind] at computed
  obtain ⟨weights, _, computed⟩ := ok_of_bind computed
  rw [Task.eval_bind] at computed
  obtain ⟨weights, _, computed⟩ := ok_of_bind computed
  split at computed
  · cases computed
    rfl
  · rw [Task.eval_bind] at computed
    obtain ⟨interest, _, computed⟩ := ok_of_bind computed
    cases interest with
    | none =>
      cases computed
      rfl
    | some interest =>
      cases complete with
      | false => rfl
      | true =>
        -- A page that is marked complete gives away that its context was.
        have discloses : (service.computeFrom query context weights interest).Discloses
            (Contract.free : Contract C R) (fun _ => False) (fun page => page.2 = true)
            (context.isComplete = true) :=
          computeFrom_discloses (carriesFeed_free reader) query context weights interest
        have whole := Program.eval_of_discloses discloses (fun _ => trivial) ⟨_, computed, rfl⟩
        rw [incomplete] at whole
        cases whole

end

end Service

namespace Deployment

variable {service : Service R} {losses : SoftLosses}

theorem answersBut_of_fails {deployment : Deployment C R} {call : Call C R}
    (works : losses.fails call = none) :
    deployment.answersBut losses call = deployment.answers call := by
  rw [answersBut, works]

theorem admits_answersBut (deployment : Deployment C R) (losses : SoftLosses) (root : Text)
    (call : Call C R)
    (allowed : (exposureTerms (C := C) root deployment.tables).contract.allows call) :
    (exposureTerms root deployment.tables).contract.admits call
      (deployment.answersBut losses call) := by
  cases fault : losses.fails call with
  | none =>
    rw [answersBut_of_fails fault]
    exact admits_answers deployment root call allowed
  | some failure =>
    cases call with
    | query query =>
      intro answer answered
      rw [answersBut, fault] at answered
      exact absurd answered (outcome_ne_answer failure answer)
    | search | retrieve | index | openIndex | read | write | delete | scan | count => cases fault

/-- Stores that lose soft parts keep the terms of requests that know of it. -/
theorem keptBy_answersBut {start : Deployment C R} {asks : Query R → Prop}
    {doomed : CacheKey → Prop} (reading : ∀ query, asks query → query.isReading = true) :
    (coherenceTerms service (start.answersBut losses) asks doomed).contract.KeptBy
      (replyUnless fun _ => losses.fails)
      fun state => Serves (coherenceTerms service (start.answersBut losses) asks doomed) start
        state.2 := by
  rintro call ⟨place, deployment⟩ serves allowed
  cases fault : losses.fails call with
  | none =>
    rw [replyUnless_none fault]
    refine serves.goesOn reading allowed ?_
    rw [← answersBut_of_fails fault]
    cases call <;> first | rfl | trivial
  | some failure =>
    rw [replyUnless_some fault]
    refine ⟨?_, serves⟩
    cases call with
    | query query =>
      change failure.outcome = _
      rw [answersBut, fault]
      rfl
    | search | retrieve | index | openIndex | read | write | delete | scan | count => cases fault

end Deployment

namespace Service

variable {service : Service R} {deployment after : Deployment C R} {losses : SoftLosses}

/-- Among the values that are right where a part is lost there is no page. -/
theorem noPage_of_serves {asks : Query R → Prop}
    (serves : Deployment.Serves (coherenceTerms service (deployment.answersBut losses) asks
      fun _ => False) deployment after) {part : SoftPart} {failure : Failure}
    (lost : losses part = some failure) {entry : String × CacheEntry R}
    (member : entry ∈ after.cache.entries) {key : CacheKey} (page : key.artifact = .feedPage) :
    (service.key key).toString? ≠ some entry.1 := by
  intro written
  obtain ⟨name, value, -, encoded, -, right | gone⟩ := serves.cache entry member
  -- A written key is read in one way as to its kind, so the entry would be right as a page.
  · have same : name.text service.root = key.text service.root :=
      (Text.ofString_of_toString? encoded).symm.trans (Text.ofString_of_toString? written)
    have kind : name.artifact = .feedPage := (CacheKey.artifact_of_text same).trans page
    cases name with
    | page identity fingerprint size cursor =>
      obtain ⟨request, query, response, -, -, own, -, -, computed, -⟩ := page_of_isRight right
      have readable : (service.key (.page identity fingerprint size cursor)).toString? ≠ none := by
        change (CacheKey.text service.root _).toString? ≠ none
        have written : (CacheKey.text service.root _).toString? = some entry.1 := encoded
        rw [written]
        simp
      obtain ⟨root, whole⟩ := whole_of_pageKey readable
      cases computePage_incomplete lost root whole own computed
    | interestVector | follows | blocks | seen | topics | profile | similar => cases kind
  · exact gone

theorem page_of_hasKey {request : FeedRequest R} {key : CacheKey}
    (keyed : (Request.feed request).HasKey service.config key) : key.artifact = .feedPage := by
  obtain ⟨query, -, keyed⟩ := keyed
  obtain ⟨fingerprint, -, keyed⟩ := ok_of_bind keyed
  cases keyed
  rfl

/-- A feed with soft losses is the feed of stores that hold nothing in the lost parts for its
reader. If anything is lost no page is kept, and once the stores are back the same request ends as
on an empty cache. Where the topics are lost the stores without them must be able to answer, so the
limit on saves is one that they take. -/
theorem feed_without_losses [FaithfulText R] (service : Service R) (losses : SoftLosses)
    (request : FeedRequest R) {deployment : Deployment C R} (works : deployment.rules = [])
    (on : deployment.cache.isOn = true) (empty : deployment.cache.entries = [])
    (dated : deployment.tables.IsDated)
    (small : (losses .topics).isSome = true →
      Number.isWord service.config.ranking.recentSavesLimit = true) :
    let ended := (service.answer (.feed request)).run.run
      (Deployment.replyUnless fun _ => losses.fails) (0, deployment)
    ended.1 = ((deployment.without losses request.identity).perform
        (service.answer (.feed request))).1 ∧
      ((∃ part, losses part ≠ none) →
        (∀ key : CacheKey, key.artifact = .feedPage → ∀ written,
          (service.key key).toString? = some written →
            ended.2.2.cache.read written = .absent) ∧
        (ended.2.2.perform (service.answer (.feed request))).1 =
          (service.answer (.feed request)).eval deployment.answers) := by
  intro ended
  have coherent : deployment.IsCoherent service fun _ => False :=
    ⟨works, on, dated, CacheStore.holds_of_empty empty⟩
  have never : CacheKey.Spreads fun _ => False :=
    ⟨fun _ _ _ => False.elim, fun _ _ _ => False.elim⟩
  have serves : Deployment.Serves (coherenceTerms service (deployment.answersBut losses)
      (service.asksFor (.feed request)) fun _ => False) deployment deployment :=
    ⟨⟨rfl, rfl, rfl, rfl⟩, works, on, CacheStore.holds_of_empty empty⟩
  have admitted := Deployment.admits_answersBut deployment losses service.root
  obtain ⟨tracked, after⟩ := Program.meets_run
    (Deployment.keptBy_answersBut fun _ => isReading_of_asksFor)
    (answer_tracks (.feed request) Deployment.isCold_answersBut
      (Deployment.readsMarks_answersBut dated) (Deployment.readsPages_of_admitted dated admitted)
      (Deployment.readsSimilar_of_admitted dated admitted) never) (0, deployment) serves
  refine ⟨?_, fun ⟨part, isLost⟩ => ?_⟩
  · have shown : ended.1 = (service.answer (.feed request)).eval (deployment.answersBut losses) :=
      tracked.resolve_left fun ⟨_, _, gone⟩ => gone
    have reduced : (deployment.without losses request.identity).IsCoherent service fun _ => False :=
      ⟨works, on, Tables.isDated_without dated, CacheStore.holds_of_empty empty⟩
    have mirrors := Task.mirrors_bind (rankFeed_mirrors request dated small)
      fun response _ same => Task.mirrors_pure (congrArg Answer.feed same)
    rw [shown, (perform_coherent reduced (.feed request)).1]
    exact eq_of_matches mirrors
  · obtain ⟨failure, lost⟩ := Option.ne_none_iff_exists'.1 isLost
    have noPage {entry : String × CacheEntry R} (member : entry ∈ ended.2.2.cache.entries)
        {key : CacheKey} (page : key.artifact = .feedPage) :
        (service.key key).toString? ≠ some entry.1 := noPage_of_serves after lost member page
    refine ⟨fun key page written encoded => ?_, ?_⟩
    · have none : ended.2.2.cache.entry? written = none := by
        rw [CacheStore.entry?, Option.map_eq_none_iff, List.find?_eq_none]
        intro entry member same
        exact noPage member page (encoded.trans (congrArg some (of_decide_eq_true same).symm))
      rw [CacheStore.read, after.on, if_pos rfl, none]
    -- All that was kept is right on the full stores too, but for a page, and there is none.
    · obtain ⟨same, ends⟩ := (Program.meets_run
        (Deployment.keptBy_lossy (fun _ => isReading_of_asksFor) fun _ => losses.fails)
        (answer_obeys deployment.isCold_answers (Deployment.readsMarks dated) (.feed request)
          fun _ => id) (0, deployment) ⟨⟨rfl, rfl, rfl, rfl⟩, coherent.mono fun _ => False.elim⟩).2
      have recovered : ended.2.2.IsCoherent service fun _ => False := by
        refine coherent.goesOn same ends.quiet ends.on fun entry member => ?_
        obtain ⟨key, value, proper, encoded, document, right | keyed⟩ := ends.cache entry member
        · rw [Deployment.answers_congr same] at right
          exact ⟨key, value, proper, encoded, document, .inl right⟩
        · exact absurd encoded (noPage member (page_of_hasKey keyed))
      rw [(perform_coherent recovered (.feed request)).1, Deployment.answers_congr same]

end Service

/-- A reader of whom every soft part holds something: of the two posts, by an author whom the reader
follows, one is saved and the other seen. -/
def engagedReader : Deployment ℚ ℚ :=
  { weighingReader with
    tables :=
      { weighingReader.tables with
        follows := [("ann", "bob")]
        saves := [⟨"ann", "0f0e0d0c-0b0a-4908-8706-050403020100", ⟨0, 0⟩⟩]
        seen := [⟨"ann", "1f0e0d0c-0b0a-4908-8706-050403020100", ⟨0, 0⟩⟩] } }

theorem engagedReader_isDated : engagedReader.tables.IsDated where
  posts := weighingReader_isSound.tables.dated.posts
  seen mark member := by
    rw [List.mem_singleton.1 member]
    exact ⟨rfl, by decide⟩

def withoutMarks : SoftLosses
  | .seen => some (.down "seen down")
  | .profile => some .hang
  | .follows | .topics => none

theorem feed_without_losses_of_engagedReader :
    let service : Service ℚ := .standard "discovery" ⟨0, 0⟩
    let request : FeedRequest ℚ := ⟨"ann", .int 1, .null, []⟩
    let ended := (service.answer (.feed request)).run.run
      (Deployment.replyUnless fun _ => withoutMarks.fails) (0, engagedReader)
    ended.1 = ((engagedReader.without withoutMarks "ann").perform
        (service.answer (.feed request))).1 ∧
      (ended.2.2.perform (service.answer (.feed request))).1 =
        (service.answer (.feed request)).eval engagedReader.answers := by
  intro service request ended
  obtain ⟨same, recovers⟩ := Service.feed_without_losses service withoutMarks request rfl rfl rfl
    engagedReader_isDated fun _ => by decide
  exact ⟨same, (recovers ⟨.seen, by simp [withoutMarks]⟩).2⟩

end PersonalFeed
