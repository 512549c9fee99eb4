import PersonalFeed.Proofs.Exposure.Traffic
import PersonalFeed.Proofs.Number.Exact

/-!
Requests around the handling of a block. Handling begins with the sets of blocks, so from then on
every request is given the author among the blocked; only one that was given an older set may still
store it, or a page that it made of it. If none does, no request that starts after the event was
handled shows the author.
-/

set_option autoImplicit false

namespace PersonalFeed

variable {C R : Type}

def CacheKey.IsSwept (root : Text) (left : String → Prop) (key : CacheKey) : Prop :=
  ∀ written, (key.text root).toString? = some written → ¬ left written

def Blocking.IsSwept (root : Text) (blocking : Blocking) (left : String → Prop) : Prop :=
  ∀ key : CacheKey, key.IsAbout blocking.reader → key.IsSwept root left

def Hides (author : Text) (result : Except (Stop R) (FeedResponse R)) : Prop :=
  ∀ response, result = .ok response → ∀ item ∈ response.items, item.authorId ≠ author

/-- A request keeps the contracts: as long as it was given the author among the blocked it stores
nothing that shows the author, and if it is late it does not show the author. -/
structure Running.IsSound [Numeral R] (root : Text) (blocking : Blocking) (running : Running C R) :
    Prop where
  any : running.rest.Meets (apart root blocking.reader blocking.author fun _ => False)
    fun _ => True
  fresh : running.isOutdated = false → running.rest.Meets
    (apart root blocking.reader blocking.author (· = .blocks blocking.reader)) fun _ => True
  late : running.isLate = true → running.rest.Meets
    (apart root blocking.reader blocking.author fun _ => True) (Hides blocking.author)

theorem Running.IsSound.shows_of_late [Numeral R] {root : Text} {blocking : Blocking}
    {running : Running C R} (sound : running.IsSound root blocking) (late : running.isLate = true) :
    running.shows blocking.author = false := by
  have meets := sound.late late
  unfold Running.shows
  split
  · rename_i response ended
    rw [ended] at meets
    simpa using meets response rfl
  · rfl

/-- Once the block is committed the tables know of it, and once its handling began nothing from
before is left of the reader's sets, nor in the end of the reader's answers. -/
structure Traffic.IsSound [Numeral R] (root : Text) (blocking : Blocking)
    (traffic : Traffic C R) : Prop where
  on : traffic.deployment.cache.isOn = true
  requests : ∀ running ∈ traffic.requests, running.IsSound root blocking
  committed : traffic.isCommitted = true →
    blocking.reader.isWhole = true ∧ blocking.author.isWhole = true ∧
      blocking.author ∈ traffic.deployment.tables.blocked blocking.reader
  begun : ∀ handling, traffic.handling = some handling → traffic.isCommitted = true ∧
    ∃ left, handling.Sweeps left (fun _ after => blocking.IsSwept root after) ∧
      (CacheKey.blocks blocking.reader).IsSwept root left ∧
      traffic.deployment.cache.KeepsApart root blocking.reader blocking.author
        (CacheKey.IsSwept root left)
  late : ∀ running ∈ traffic.requests, running.isLate = true → traffic.isHandled = true

namespace CacheStore

variable [Numeral R] {root reader author : Text} {trusted : CacheKey → Prop} {cache : CacheStore R}

theorem keepsApart_mono {fewer : CacheKey → Prop}
    (keeps : cache.KeepsApart root reader author trusted)
    (implies : ∀ key, fewer key → trusted key) : cache.KeepsApart root reader author fewer :=
  fun entry member key proper written trust => keeps entry member key proper written
    (implies key trust)

theorem keepsApart_of_swept {blocking : Blocking} {left : String → Prop}
    (keeps : cache.KeepsApart root blocking.reader blocking.author (CacheKey.IsSwept root left))
    (swept : blocking.IsSwept root left) :
    cache.KeepsApart root blocking.reader blocking.author fun _ => True := by
  intro entry member key proper written _
  by_cases about : key.IsAbout blocking.reader
  · exact keeps entry member key proper written (swept key about)
  · exact apart_of_aside about

/-- Where something from before may be left, there may be entries that show the author. -/
theorem keepsApart_iff {left : String → Prop} :
    cache.KeepsApart root reader author (CacheKey.IsSwept root left) ↔
      ∀ entry ∈ cache.entries, (∃ key : CacheKey, key.IsProper ∧
        (key.text root).toString? = some entry.1 ∧ ¬ Apart reader author key entry.2) →
        left entry.1 := by
  constructor
  · rintro keeps entry member ⟨key, proper, written, shows⟩
    by_contra gone
    refine shows (keeps entry member key proper written fun other found => ?_)
    rw [written] at found
    cases found
    exact gone
  · intro under entry member key proper written swept
    by_contra shows
    exact swept _ written (under entry member ⟨key, proper, written, shows⟩)

end CacheStore

theorem Service.isSound_of_courses [Score R] [Component C R] [PlainText R] {service : Service R}
    {blocking : Blocking} (differ : blocking.reader ≠ blocking.author) {request : FeedRequest R}
    (asked : request.identity = blocking.reader)
    {program : Program C R (Except (Stop R) (FeedResponse R))}
    (courses : service.Courses request program) (isLate : Bool) :
    (⟨program, false, isLate⟩ : Running C R).IsSound service.root blocking := by
  obtain ⟨load, gathers, rfl⟩ := courses
  have yields (trusted : CacheKey → Prop) : (rankFeedBy load service request).Yields
      (apart service.root blocking.reader blocking.author trusted) _ :=
    rankFeedBy_apart differ gathers
  exact {
    any := Program.meets_mono (yields _) fun _ _ => trivial
    fresh := fun _ => Program.meets_mono (yields _) fun _ _ => trivial
    late := fun _ => Program.meets_mono (yields _) fun result shown response ended item member =>
      shown response ended item member (fun _ => trivial) asked }

namespace Traffic

variable [Score R] [Component C R] {service : Service R} {blocking : Blocking}
  {traffic : Traffic C R}

omit [Component C R] in
theorem isSound_quiet {deployment : Deployment C R} (on : deployment.cache.isOn = true) :
    (quiet deployment).IsSound service.root blocking where
  on := on
  requests running member := absurd member List.not_mem_nil
  committed committed := by cases committed
  begun handling begun := by cases begun
  late running member := absurd member List.not_mem_nil

theorem isOvertaken_of_take {move : Move C R} (overtaken : traffic.isOvertaken = true) :
    (traffic.take service blocking move).isOvertaken = true := by
  cases move with
  | start program => exact overtaken
  | advance place =>
    simp only [take, advance]
    split
    · simp [overtaken]
    · exact overtaken
  | commit =>
    simp only [take]
    split <;> exact overtaken
  | handle =>
    simp only [take]
    split <;> exact overtaken

theorem isSound_start (sound : traffic.IsSound service.root blocking)
    {program : Program C R (Except (Stop R) (FeedResponse R))}
    (fits : ∀ isLate, (⟨program, false, isLate⟩ : Running C R).IsSound service.root blocking) :
    (traffic.take service blocking (.start program)).IsSound service.root blocking where
  on := sound.on
  requests running member := by
    rcases List.mem_append.1 member with member | member
    · exact sound.requests running member
    · rw [List.mem_singleton.1 member]
      exact fits _
  committed := sound.committed
  begun := sound.begun
  late running member late := by
    rcases List.mem_append.1 member with member | member
    · exact sound.late running member late
    · rw [List.mem_singleton.1 member] at late
      exact late

theorem isSound_commit (differ : blocking.reader ≠ blocking.author)
    (sound : traffic.IsSound service.root blocking) :
    (traffic.take service blocking .commit).IsSound service.root blocking := by
  simp only [take]
  split
  · rename_i tables applied
    exact {
      on := sound.on
      requests := sound.requests
      committed := fun _ => Blocking.of_apply differ applied
      begun := fun handling begun => ⟨rfl, (sound.begun handling begun).2⟩
      late := sound.late }
  · exact sound

omit [Score R] [Component C R] in
/-- The handling of the event sweeps away the reader's set of blocks first, then the answers. -/
theorem handling_sweeps (root : service.root.IsName) (plain : blocking.reader.IsPlain)
    (someone : blocking.reader.isEmpty = false) (reader : blocking.reader.isWhole = true)
    (author : blocking.author.isWhole = true) :
    ∃ written next,
      (service.handleEvent blocking.change.event : Task C R Unit).run =
        .ask (.delete written) next ∧
      (∀ s, ((CacheKey.blocks blocking.reader).text service.root).toString? = some s →
        s ∈ written) ∧
      (Program.ask (.delete written) next).Sweeps (fun _ => True)
        fun _ after => blocking.IsSwept service.root after := by
  have whole := Blocking.isWhole_parties reader author
  have side := Blocking.reader_mem_parties someone
  obtain ⟨written, next, opens, each⟩ :=
    service.handleEvent_opens (C := C) root.2 rfl whole
  refine ⟨written, next, opens, each _ side, ?_⟩
  rw [← opens]
  have sweeps := Service.handleEvent_sweeps (C := C) root (Event.isWhole_of_block rfl whole)
  refine Program.sweeps_mono (sweeps _) ?_
  intro result after swept key about s found stays
  obtain ⟨deletion, dropped, reached⟩ := Event.reaches_of_block rfl side plain about
  exact (swept.2 s stays).2 ⟨deletion, dropped, key, reached, found⟩

theorem take_handle (committed : traffic.isCommitted = true) {call : Call C R}
    {next : call.Reply → Program C R (Except (Stop R) Unit)}
    (pending : traffic.handling.getD (service.handleEvent blocking.change.event).run =
      .ask call next) :
    traffic.take service blocking .handle =
      { traffic with
        deployment := (Deployment.reply call traffic.deployment).2
        handling := some (next (Deployment.reply call traffic.deployment).1) } := by
  simp only [take, committed, pending]

theorem isSound_reply (sound : traffic.IsSound service.root blocking)
    (committed : traffic.isCommitted = true) (unfinished : traffic.isHandled = false)
    {call : Call C R} {next : call.Reply → Program C R (Except (Stop R) Unit)}
    (pending : traffic.handling.getD (service.handleEvent blocking.change.event).run =
      .ask call next) {left : String → Prop}
    (sweeps : (Program.ask call next).Sweeps left
      fun _ after => blocking.IsSwept service.root after)
    (keeps : traffic.deployment.cache.KeepsApart service.root blocking.reader blocking.author
      (CacheKey.IsSwept service.root left))
    (first : (CacheKey.blocks blocking.reader).IsSwept service.root
      (call.leaves left (Deployment.reply call traffic.deployment).1)) :
    (traffic.take service blocking .handle).IsSound service.root blocking := by
  rw [take_handle committed pending]
  obtain ⟨later, shrinks, under⟩ := Deployment.sweeps_reply sweeps sound.on
    (CacheStore.keepsApart_iff.1 keeps)
  exact {
    on := shrinks.on.trans sound.on
    requests := sound.requests
    committed := fun committed => by
      rw [show (Deployment.reply call traffic.deployment).2.tables = traffic.deployment.tables from
        shrinks.same.tables]
      exact sound.committed committed
    begun := by
      rintro handling ⟨⟩
      exact ⟨committed, _, later, first, CacheStore.keepsApart_iff.2 under⟩
    late := fun running member late => by
      rw [sound.late running member late] at unfinished
      cases unfinished }

theorem isSound_handle (root : service.root.IsName) (plain : blocking.reader.IsPlain)
    (someone : blocking.reader.isEmpty = false) (sound : traffic.IsSound service.root blocking) :
    (traffic.take service blocking .handle).IsSound service.root blocking := by
  cases committed : traffic.isCommitted with
  | false =>
    have same : traffic.take service blocking .handle = traffic := by simp [take, committed]
    rw [same]
    exact sound
  | true =>
    obtain ⟨reader, author, -⟩ := sound.committed committed
    cases begun : traffic.handling with
    | none =>
      obtain ⟨written, next, opens, dropped, sweeps⟩ :=
        handling_sweeps (C := C) root plain someone reader author
      -- Anything may be left so far, but the first call drops the reader's set.
      refine isSound_reply sound committed (by rw [isHandled, begun])
        (by rw [begun, Option.getD_none, opens]) sweeps
        (CacheStore.keepsApart_iff.2 fun _ _ _ => trivial) ?_
      exact fun s found stays => stays.2 (dropped s found)
    | some handling =>
      obtain ⟨-, left, sweeps, first, keeps⟩ := sound.begun handling begun
      cases handling with
      | done result =>
        have same : traffic.take service blocking .handle = traffic := by
          simp only [take, committed, begun, Option.getD_some]
          rw [← begun, ← committed]
        rw [same]
        exact sound
      | ask call next =>
        exact isSound_reply sound committed (by rw [isHandled, begun])
          (by rw [begun, Option.getD_some]) sweeps keeps
          fun s found stays => first s found (Call.left_of_leaves stays)

/-- What the stores reply to a request of the traffic keeps the request sound. -/
theorem isSound_next (sound : traffic.IsSound service.root blocking) {call : Call C R}
    {next : call.Reply → Program C R (Except (Stop R) (FeedResponse R))} {isOutdated isLate : Bool}
    (member : (⟨.ask call next, isOutdated, isLate⟩ : Running C R) ∈ traffic.requests) :
    let reply := (Deployment.reply call traffic.deployment).1
    (⟨next reply, isOutdated || traffic.handling.isNone &&
      call.omits service.root blocking.reader blocking.author reply, isLate⟩ :
      Running C R).IsSound service.root blocking := by
  obtain ⟨any, fresh, late⟩ := sound.requests _ member
  refine ⟨any.2 _ (admits_of_distrust _), fun upToDate => ?_, fun isLate => ?_⟩
  · -- Before the handling a set without the author makes a request outdated, and once it began
    -- there is none left.
    rw [Bool.or_eq_false_iff] at upToDate
    refine (fresh upToDate.1).2 _ ?_
    cases begun : traffic.handling with
    | none => exact admits_of_omits (by simpa [begun] using upToDate.2)
    | some handling =>
      obtain ⟨committed, left, -, first, keeps⟩ := sound.begun handling begun
      refine Deployment.admits_apart ⟨(sound.committed committed).2.2, ?_⟩ call
      exact CacheStore.keepsApart_mono keeps fun key same => same ▸ first
  · refine (late isLate).2 _ ?_
    have handled := sound.late _ member isLate
    obtain ⟨result, ended⟩ : ∃ result, traffic.handling = some (.done result) := by
      unfold isHandled at handled
      split at handled
      · exact ⟨_, ‹_›⟩
      · cases handled
    obtain ⟨committed, left, swept, -, keeps⟩ := sound.begun _ ended
    exact Deployment.admits_apart ⟨(sound.committed committed).2.2,
      CacheStore.keepsApart_of_swept keeps swept⟩ call

/-- One call of a request, if it is not an outdated one that tells something of old. -/
theorem isSound_advance (sound : traffic.IsSound service.root blocking) {place : Nat}
    (undisturbed : (traffic.advance service blocking place).isOvertaken = false) :
    (traffic.advance service blocking place).IsSound service.root blocking := by
  unfold advance at undisturbed ⊢
  split at undisturbed
  · rename_i call next isOutdated isLate found
    have member := List.mem_of_getElem? found
    obtain ⟨any, fresh, -⟩ := sound.requests _ member
    obtain ⟨tables, on⟩ := traffic.deployment.reply_frame any.1
    have requests : ∀ running ∈ traffic.requests.set place _,
        running.IsSound service.root blocking :=
      fun running inside => (List.mem_or_eq_of_mem_set inside).elim (sound.requests running)
        fun same => same ▸ isSound_next sound member
    exact {
      on := on.trans sound.on
      requests := requests
      committed := fun committed => tables ▸ sound.committed committed
      begun := by
        intro handling begun
        have isSome : traffic.handling.isSome = true := Option.isSome_of_eq_some begun
        obtain ⟨committed, left, sweeps, first, keeps⟩ := sound.begun handling begun
        have apart : traffic.deployment.KeepsApart service.root blocking.reader blocking.author
            (CacheKey.IsSwept service.root left) := ⟨(sound.committed committed).2.2, keeps⟩
        refine ⟨committed, left, sweeps, first, ?_⟩
        -- An outdated request may store what is of no matter, or it would overtake the handling.
        cases outdated : isOutdated with
        | false => exact (Deployment.keepsApart_reply rfl (fresh outdated).1 apart).cache
        | true =>
          have silent : call.tells service.root = false := by
            simp only [Bool.or_eq_false_iff] at undisturbed
            simpa [isSome, outdated] using undisturbed.2
          exact (Deployment.keepsApart_reply trivial (allows_of_tells any.1 silent) apart).cache
      late := fun running inside isLate => (List.mem_or_eq_of_mem_set inside).elim
        (fun inside => sound.late running inside isLate)
        fun same => sound.late _ member (by rw [same] at isLate; exact isLate) }
  · exact sound

/-- A move keeps the traffic sound if it starts what is sound and does not overtake the handling. -/
theorem isSound_take (root : service.root.IsName) (plain : blocking.reader.IsPlain)
    (someone : blocking.reader.isEmpty = false) (differ : blocking.reader ≠ blocking.author)
    (sound : traffic.IsSound service.root blocking) {move : Move C R}
    (fits : ∀ program, move = .start program →
      ∀ isLate, (⟨program, false, isLate⟩ : Running C R).IsSound service.root blocking)
    (undisturbed : (traffic.take service blocking move).isOvertaken = false) :
    (traffic.take service blocking move).IsSound service.root blocking := by
  cases move with
  | start program => exact isSound_start sound (fits program rfl)
  | advance place => exact isSound_advance sound undisturbed
  | commit => exact isSound_commit differ sound
  | handle => exact isSound_handle root plain someone sound

theorem isOvertaken_of_takeAll {moves : List (Move C R)} (overtaken : traffic.isOvertaken = true) :
    (traffic.takeAll service blocking moves).isOvertaken = true := by
  induction moves generalizing traffic with
  | nil => exact overtaken
  | cons move rest ih => exact ih (isOvertaken_of_take overtaken)

theorem isSound_takeAll (root : service.root.IsName) (plain : blocking.reader.IsPlain)
    (someone : blocking.reader.isEmpty = false) (differ : blocking.reader ≠ blocking.author)
    (sound : traffic.IsSound service.root blocking) {moves : List (Move C R)}
    (fits : ∀ program, .start program ∈ moves →
      ∀ isLate, (⟨program, false, isLate⟩ : Running C R).IsSound service.root blocking)
    (undisturbed : (traffic.takeAll service blocking moves).isOvertaken = false) :
    (traffic.takeAll service blocking moves).IsSound service.root blocking := by
  induction moves generalizing traffic with
  | nil => exact sound
  | cons move rest ih =>
    have before : (traffic.take service blocking move).isOvertaken = false := by
      by_contra overtaken
      rw [Bool.not_eq_false] at overtaken
      have after : ((traffic.take service blocking move).takeAll service blocking
          rest).isOvertaken = true := isOvertaken_of_takeAll overtaken
      exact Bool.noConfusion (after.symm.trans undisturbed)
    refine ih (isSound_take root plain someone differ sound ?_ before)
      (fun program member => fits program (List.mem_cons_of_mem _ member)) undisturbed
    rintro program rfl
    exact fits program List.mem_cons_self

end Traffic

section

variable [Score R] [Component C R]

/-- Requests of a reader for feeds, the commit of a block and the handling of its event take turns
in any way. If none that was given an old set of blocks before the handling stores a set or a page
once the handling began, no request that starts after the event was handled shows the author. -/
theorem takeAll_hides_author [PlainText R] (service : Service R) (blocking : Blocking)
    (root : service.root.IsName) (plain : blocking.reader.IsPlain)
    (someone : blocking.reader.isEmpty = false) (differ : blocking.reader ≠ blocking.author)
    (start : Deployment C R) (on : start.cache.isOn = true) (moves : List (Move C R))
    (asked : ∀ program, .start program ∈ moves → service.Asks blocking.reader program)
    (undisturbed :
      (Traffic.takeAll service blocking (.quiet start) moves).isOvertaken = false) :
    ∀ running ∈ (Traffic.takeAll service blocking (.quiet start) moves).requests,
      running.isLate = true → running.shows blocking.author = false := by
  have quiet : (Traffic.quiet start).IsSound service.root blocking := Traffic.isSound_quiet on
  have sound := Traffic.isSound_takeAll root plain someone differ quiet
    (fun program member isLate => by
      obtain ⟨now, request, courses, identity⟩ := asked program member
      exact Service.isSound_of_courses differ identity courses isLate) undisturbed
  exact fun running member late => (sound.requests running member).shows_of_late late

end

def strangers : Deployment ℚ ℚ :=
  { Deployment.empty with
    tables := {
      users := [⟨"ann", "ann", none, none, false, some (List.replicate 1024 (.int 1)), .null, none⟩,
        ⟨"bob", "bob", none, none, false, none, .null, none⟩]
      follows := []
      blocks := []
      posts := [⟨"0f0e0d0c-0b0a-4908-8706-050403020100", "bob", some "hello", ⟨0, 0⟩, 0, 0, [], none,
        none, none, none⟩]
      saves := []
      seen := [] }
    fixedSearch := some [⟨"0f0e0d0c-0b0a-4908-8706-050403020100", 1, none⟩] }

def feedOfAnn : Program ℚ ℚ (Except (Stop ℚ) (FeedResponse ℚ)) :=
  ((Service.standard "discovery" ⟨0, 0⟩).rankFeed ⟨"ann", .null, .null, []⟩).run

/-- Two requests, the second one after the handling. The first one was given the set of blocks from
before the commit, and goes on before the handling and after it. -/
def requestsAround (before after : Nat) : List (Move ℚ ℚ) :=
  .start feedOfAnn :: List.replicate 14 (.advance 0) ++ .commit ::
    List.replicate before (.advance 0) ++ List.replicate 12 .handle ++
    List.replicate after (.advance 0) ++ .start feedOfAnn :: List.replicate 40 (.advance 1)

theorem asks_of_start {before after : Nat} {program}
    (started : .start program ∈ requestsAround before after) :
    (Service.standard "discovery" ⟨0, 0⟩).Asks "ann" program := by
  have same : program = feedOfAnn := by simpa [requestsAround] using started
  rw [same]
  exact ⟨⟨0, 0⟩, _, Service.courses_rankFeed _ _, rfl⟩

def annBlocksBob : Blocking := ⟨"ann", "bob", false⟩

def strangersAround (before after : Nat) : Traffic ℚ ℚ :=
  .takeAll (.standard "discovery" ⟨0, 0⟩) annBlocksBob (.quiet strangers)
    (requestsAround before after)

theorem takeAll_hides_author_of_promptRequest :
    ("discovery" : Text).IsName ∧ annBlocksBob.reader.IsPlain ∧
      annBlocksBob.reader.isEmpty = false ∧ annBlocksBob.reader ≠ annBlocksBob.author ∧
      strangers.cache.isOn = true ∧
      (∀ program, .start program ∈ requestsAround 40 0 →
        (Service.standard "discovery" ⟨0, 0⟩).Asks annBlocksBob.reader program) ∧
      (strangersAround 40 0).isOvertaken = false ∧
    ∀ running ∈ (strangersAround 40 0).requests,
      running.isLate = true → running.shows annBlocksBob.author = false := by
  have root : ("discovery" : Text).IsName := by decide
  have plain : annBlocksBob.reader.IsPlain := by decide
  have differ : annBlocksBob.reader ≠ annBlocksBob.author := by decide
  have undisturbed : (strangersAround 40 0).isOvertaken = false := by decide +kernel
  exact ⟨root, plain, rfl, differ, rfl, fun _ => asks_of_start, undisturbed,
    takeAll_hides_author _ _ root plain rfl differ _ rfl _ (fun _ => asks_of_start) undisturbed⟩

/-- A page that is stored after the event was handled shows the author to the next request. -/
theorem strangersAround_shows_author :
    (∀ program, .start program ∈ requestsAround 0 40 →
        (Service.standard "discovery" ⟨0, 0⟩).Asks annBlocksBob.reader program) ∧
      ∃ running ∈ (strangersAround 0 40).requests,
        running.isLate = true ∧ running.shows annBlocksBob.author = true := by
  have found : ((strangersAround 0 40).requests.any fun running =>
      running.isLate && running.shows annBlocksBob.author) = true := by decide +kernel
  simp only [List.any_eq_true, Bool.and_eq_true] at found
  exact ⟨fun _ => asks_of_start, found⟩

end PersonalFeed
