import PersonalFeed.Proofs.Coherence.Orders
import PersonalFeed.Proofs.Number.Exact

/-!
Runs of a service whose tables also change outside of it. Each change is announced by an event, and
events are handled late and in any order. What a pending event will drop is doomed until then; every
other cached value is right at every step, so without pending events the cache cannot be noticed.
-/

set_option autoImplicit false

namespace PersonalFeed

/-- A step of a run: a request or an order to the service, a change of the tables, or the handling of
an event. -/
inductive Step (R : Type) where
  | ask (request : Request R)
  | recordImpressions (identity : Text) (posts : List (Json R))
  | rebuildInterest (identity : Text)
  | purgeSeen
  | change (change : Change)
  | handle (event : Event)

/-- A deployment and the events that are still to be handled. -/
structure World (C R : Type) where
  deployment : Deployment C R
  pending : List Event

def Event.Dooms (event : Event) (key : CacheKey) : Prop :=
  ∃ deletion ∈ event.deletions, deletion.Covers key

def Event.Pending (pending : List Event) (key : CacheKey) : Prop :=
  (∃ event ∈ pending, event.Dooms key) ∨ key.owner.isEmpty = true

def Event.IsNamed (event : Event) : Prop := ∀ deletion ∈ event.deletions, deletion.IsNamed

namespace CacheKey

theorem owner_of_feeds {reader : Text} {key : CacheKey} (reads : key.Feeds reader) :
    key.owner = reader := by
  cases key with
  | similar => exact reads.elim
  | interestVector | follows | blocks | seen | topics | profile | page => exact reads

theorem owner_of_relates {requester : Text} {key : CacheKey} (reads : key.Relates requester) :
    key.owner = requester := by
  cases key with
  | follows | blocks | similar => exact reads
  | interestVector | seen | topics | profile | page => exact reads.elim

end CacheKey

/-- Whom a deletion is about: one person, or everybody. -/
def Deletion.Concerns (owner : Text) : Deletion → Prop
  | .keys dropped => ∃ key ∈ dropped, key.owner = owner
  | .pages given | .similar given => given = none ∨ given = some owner

theorem Deletion.concerns_of_covers {deletion : Deletion} {key : CacheKey}
    (covers : deletion.Covers key) : deletion.Concerns key.owner := by
  cases deletion with
  | keys dropped => exact ⟨key, covers, rfl⟩
  | pages given =>
    cases key with
    | page => exact covers
    | interestVector | follows | blocks | seen | topics | profile | similar => exact covers.elim
  | similar given =>
    cases key with
    | similar => exact covers
    | interestVector | follows | blocks | seen | topics | profile | page => exact covers.elim

namespace Event

variable {event : Event} {owner : Text}

theorem party_of_concerns {deletion : Deletion} (kind : event.kind = .blockChanged)
    (member : deletion ∈ event.deletions) (concerns : deletion.Concerns owner) :
    owner ∈ event.parties := by
  unfold deletions at member
  rw [kind] at member
  rcases List.mem_cons.1 member with rfl | member
  · obtain ⟨key, inside, rfl⟩ := concerns
    obtain ⟨party, side, rfl⟩ := List.mem_map.1 inside
    exact side
  · obtain ⟨party, side, member⟩ := List.mem_flatMap.1 member
    have given : Deletion.Concerns owner (.pages (some party)) := by
      rcases List.mem_pair.1 member with rfl | rfl <;> exact concerns
    rcases given with none | same
    · cases none
    · cases same
      exact side

/-- What the other events drop is about their actor, if they do not drop everything. -/
theorem actor_of_concerns {deletion : Deletion} (block : event.kind ≠ .blockChanged)
    (privacy : event.kind ≠ .privacyChanged) (member : deletion ∈ event.deletions)
    (concerns : deletion.Concerns owner) : event.actor = owner := by
  obtain ⟨kind, actor, target, post⟩ := event
  cases kind with
  | blockChanged => exact absurd rfl block
  | privacyChanged => exact absurd rfl privacy
  | followChanged | postCreated | postSaved | seenRecorded =>
    simp only [deletions, List.mem_cons, List.not_mem_nil, or_false] at member
    rcases member with rfl | rfl | rfl <;> simpa [Deletion.Concerns, CacheKey.owner] using concerns

theorem dooms_pages {deletion : Deletion} (member : deletion ∈ event.deletions)
    (concerns : deletion.Concerns owner) {key : CacheKey} (page : key.IsPageOf owner) :
    event.Dooms key := by
  have drops (given : Option Text) (inside : .pages given ∈ event.deletions)
      (same : given = none ∨ given = some owner) : event.Dooms key :=
    ⟨_, inside, Deletion.covers_page page same⟩
  by_cases block : event.kind = .blockChanged
  · have side := party_of_concerns block member concerns
    refine drops (some owner) ?_ (.inr rfl)
    rw [deletions, block]
    exact List.mem_cons_of_mem _ (List.mem_flatMap.2 ⟨owner, side, List.mem_cons_self⟩)
  · by_cases privacy : event.kind = .privacyChanged
    · refine drops none ?_ (.inl rfl)
      rw [deletions, privacy]
      exact List.mem_cons_self
    · have actor := actor_of_concerns block privacy member concerns
      refine drops (some owner) ?_ (.inr rfl)
      obtain ⟨kind, actor, target, post⟩ := event
      cases actor
      cases kind <;> first | exact absurd rfl block | exact absurd rfl privacy | simp [deletions]

/-- An event that drops a set of edges of a person, or a list, drops the person's lists. -/
theorem dooms_lists {key other : CacheKey} (gone : event.Dooms key) (reads : key.Relates owner)
    (list : other.IsListFor owner) : event.Dooms other := by
  obtain ⟨deletion, member, covers⟩ := gone
  have concerns := Deletion.concerns_of_covers covers
  rw [CacheKey.owner_of_relates reads] at concerns
  have drops (given : Option Text) (inside : .similar given ∈ event.deletions)
      (same : given = none ∨ given = some owner) : event.Dooms other :=
    ⟨_, inside, Deletion.covers_list list same⟩
  by_cases block : event.kind = .blockChanged
  · have side := party_of_concerns block member concerns
    refine drops (some owner) ?_ (.inr rfl)
    rw [deletions, block]
    exact List.mem_cons_of_mem _ (List.mem_flatMap.2
      ⟨owner, side, List.mem_cons_of_mem _ List.mem_cons_self⟩)
  · by_cases privacy : event.kind = .privacyChanged
    · refine drops none ?_ (.inl rfl)
      rw [deletions, privacy]
      exact List.mem_cons_of_mem _ List.mem_cons_self
    · have actor := actor_of_concerns block privacy member concerns
      refine drops (some owner) ?_ (.inr rfl)
      obtain ⟨kind, actor, target, post⟩ := event
      cases actor
      cases kind with
      | blockChanged => exact absurd rfl block
      | privacyChanged => exact absurd rfl privacy
      | followChanged => simp [deletions]
      -- These drop no edges and no lists, so the key is none of theirs.
      | postCreated | postSaved | seenRecorded =>
        simp only [deletions, List.mem_cons, List.not_mem_nil, or_false] at member
        cases key with
        | interestVector | seen | topics | profile | page => exact reads.elim
        | follows | blocks | similar =>
          rcases member with rfl | rfl <;> simp [Deletion.Covers] at covers

theorem spreads_dooms (event : Event) : CacheKey.Spreads event.Dooms where
  pages reader key reads gone fingerprint size cursor := by
    obtain ⟨deletion, member, covers⟩ := gone
    have concerns := Deletion.concerns_of_covers covers
    rw [CacheKey.owner_of_feeds reads] at concerns
    exact dooms_pages member concerns ⟨_, _, _, rfl⟩
  similar requester key reads gone post limit := dooms_lists gone reads ⟨_, _, rfl⟩

theorem spreads_pending (pending : List Event) : CacheKey.Spreads (Pending pending) := by
  constructor
  · rintro reader key reads (⟨event, member, gone⟩ | nobody) fingerprint size cursor
    · exact .inl ⟨event, member, event.spreads_dooms.pages reader key reads gone _ _ _⟩
    · rw [CacheKey.owner_of_feeds reads] at nobody
      exact .inr nobody
  · rintro requester key reads (⟨event, member, gone⟩ | nobody) post limit
    · exact .inl ⟨event, member, event.spreads_dooms.similar requester key reads gone _ _⟩
    · rw [CacheKey.owner_of_relates reads] at nobody
      exact .inr nobody

theorem actor_mem_parties (event : Event) : event.actor ∈ event.parties := by
  unfold parties
  split
  · exact List.mem_cons_self
  · split <;> exact List.mem_cons_self

theorem party_cases {party : Text} (side : party ∈ event.parties) :
    party = event.actor ∨ event.target = some party := by
  unfold parties at side
  cases given : event.target with
  | none =>
    rw [given] at side
    exact .inl (List.mem_singleton.1 side)
  | some target =>
    simp only [given] at side
    split at side
    · exact .inl (List.mem_singleton.1 side)
    · exact (List.mem_pair.1 side).imp_right fun same => congrArg some same.symm

theorem isNamed_of_parties (named : ∀ party ∈ event.parties, party.IsName) : event.IsNamed := by
  have own (party : Text) (member : party ∈ event.parties) :
      ∀ name, some party = some name → name.IsName := by
    rintro name same
    cases same
    exact named party member
  have actor := event.actor_mem_parties
  have set {key : CacheKey} (parts : key.parts = [event.actor]) : Deletion.IsNamed (.keys [key]) := by
    intro other inside part member
    rw [List.mem_singleton.1 inside, parts, List.mem_singleton] at member
    exact member ▸ (named _ actor).2
  have all : ∀ name : Text, none = some name → name.IsName := fun name same => by cases same
  intro deletion member
  unfold deletions at member
  -- One case for each list of deletions that a kind of event has.
  split at member
  · simp only [List.mem_cons, List.not_mem_nil, or_false] at member
    rcases member with rfl | rfl | rfl
    · exact set rfl
    · exact own _ actor
    · exact own _ actor
  · rcases List.mem_cons.1 member with rfl | member
    · intro key inside part written
      obtain ⟨party, side, rfl⟩ := List.mem_map.1 inside
      rw [CacheKey.parts, List.mem_singleton] at written
      exact written ▸ (named party side).2
    · obtain ⟨party, side, member⟩ := List.mem_flatMap.1 member
      rcases List.mem_pair.1 member with rfl | rfl <;> exact own party side
  · rw [List.mem_singleton.1 member]
    exact own _ actor
  · rcases List.mem_pair.1 member with rfl | rfl <;> exact all
  · rcases List.mem_pair.1 member with rfl | rfl
    · exact set rfl
    · exact own _ actor
  · rcases List.mem_pair.1 member with rfl | rfl
    · exact set rfl
    · exact own _ actor

theorem isNamed_of_change {change : Change} (named : ∀ name ∈ change.people, name.IsName) :
    change.event.IsNamed := by
  refine isNamed_of_parties fun party member => named party ?_
  cases change with
  | addFollow edge | removeFollow edge | addBlock edge | removeBlock edge =>
    simp only [Change.event, parties] at member
    split at member
    · exact List.mem_cons.2 (.inl (List.mem_singleton.1 member))
    · exact member
  | addSave | removeSave | addSeen | removeSeen | setPrivate => exact member

end Event

variable {C R : Type}

/-- The people of a step have no signs of patterns in their names, and its moments are in the
calendar. -/
def Step.IsPlain : Step R → Prop
  | ask _ | purgeSeen | handle _ => True
  | recordImpressions identity _ | rebuildInterest identity => identity.IsPlain
  | change made =>
    (∀ name ∈ made.people, name.IsPlain) ∧
      ∀ mark, made = .addSeen mark → mark.moment.inCalendar = true

theorem Request.owner_of_looksUp {request : Request R} {key : CacheKey}
    (reads : request.LooksUp key) : key.owner = request.requester := by
  cases request with
  | feed request => exact CacheKey.owner_of_feeds reads
  | similar request => exact CacheKey.owner_of_relates reads

variable [Score R] [Component C R]

omit [Score R] [Component C R] in
theorem Service.handleEvent_sweeps {service : Service R} (root : service.root.IsName)
    {event : Event} (whole : ∀ deletion ∈ event.deletions, deletion.IsWhole) :
    (service.handleEvent event : Task C R Unit).Sweeps fun written =>
      ∃ deletion ∈ event.deletions, ∃ key, deletion.Reaches key ∧
        (key.text service.root).toString? = some written :=
  Task.sweeps_mono (Task.sweeps_bind (applyDeletions_sweep root whole)
    fun _ => Task.sweeps_count _) fun _ => .inl

theorem Service.perform_of_nobody (service : Service R) {request : Request R}
    (nobody : request.requester.isEmpty = true) :
    ∃ stop, ∀ deployment : Deployment C R,
      (deployment.perform (service.answer request)).1 = .error stop := by
  cases request with
  | feed request =>
    have refused : checkFeed service.config request = .error .identityMissing := if_pos nobody
    rw [answer, rankFeed, refused]
    exact ⟨_, fun _ => rfl⟩
  | similar request =>
    obtain ⟨cause, refused⟩ : ∃ cause, checkSimilar service.config request = .error cause := by
      rw [checkSimilar]
      cases PostId.check "post_id" request.post with
      | error cause => exact ⟨cause, rfl⟩
      | ok post => exact ⟨.identityMissing, if_pos nobody⟩
    rw [answer, similarPosts, refused]
    exact ⟨_, fun _ => rfl⟩

namespace World

/-- Take a step. A change that the store refuses is none. -/
def take (service : Service R) (world : World C R) : Step R → World C R
  | .ask request =>
    { world with deployment := (world.deployment.perform (service.answer request)).2 }
  | .recordImpressions identity posts =>
    { world with
      deployment := (world.deployment.perform (service.recordImpressions identity posts)).2 }
  | .rebuildInterest identity =>
    { world with
      deployment := (world.deployment.perform (service.rebuildInterest (C := C) identity)).2 }
  | .purgeSeen =>
    let purge := Service.purgeSeen service.now service.config.ranking.seenRetentionDays
    { world with deployment := (world.deployment.perform purge).2 }
  | .change made =>
    match made.apply world.deployment.tables with
    | .ok tables =>
      ⟨{ world.deployment with tables := tables }, made.event :: world.pending⟩
    | .error _ => world
  | .handle event =>
    ⟨(world.deployment.perform (service.handleEvent event)).2, world.pending.erase event⟩

def takeAll (service : Service R) (world : World C R) (steps : List (Step R)) : World C R :=
  steps.foldl (take service) world

/-- All cached values are right but for those that pending events will drop. -/
structure IsCoherent (service : Service R) (world : World C R) : Prop where
  deployment : world.deployment.IsCoherent service (Event.Pending world.pending)
  named : ∀ event ∈ world.pending, event.IsNamed

variable [FaithfulText R] {service : Service R} {world : World C R}

omit [FaithfulText R] in
theorem isCoherent_change (coherent : world.IsCoherent service) {made : Change}
    (plain : ∀ name ∈ made.people, name.IsPlain)
    (moments : ∀ mark, made = .addSeen mark → mark.moment.inCalendar = true) :
    (world.take service (.change made)).IsCoherent service := by
  unfold take
  dsimp only
  split
  · rename_i tables applied
    have whole := Change.isWhole_of_apply applied
    have named : made.event.IsNamed :=
      Event.isNamed_of_change fun name member => ⟨plain name member, whole name member⟩
    constructor
    -- What the change touches is either doomed by its event or the feed of nobody.
    · have changed : ({ world.deployment with tables := tables } : Deployment C R).IsCoherent
          service fun key => Event.Pending world.pending key ∨
            (made.event.Dooms key ∨ key.owner.isEmpty = true) := by
        refine coherent.deployment.withTables
          (Change.isDated_of_apply applied coherent.deployment.dated moments)
          fun key fresh query asked => ?_
        refine Change.agree_of_apply applied (Service.isReading_of_dependsOn asked)
          fun touched => fresh ?_
        cases nobody : key.owner.isEmpty with
        | true => exact .inr rfl
        | false => exact .inl (Change.covers_of_touches asked touched nobody)
      refine changed.mono fun key gone => ?_
      rcases gone with (⟨event, member, gone⟩ | nobody) | gone | nobody
      · exact .inl ⟨event, List.mem_cons_of_mem _ member, gone⟩
      · exact .inr nobody
      · exact .inl ⟨_, List.mem_cons_self, gone⟩
      · exact .inr nobody
    · intro event member
      rcases List.mem_cons.1 member with rfl | member
      · exact named
      · exact coherent.named event member
  · exact coherent

omit [FaithfulText R] in
theorem isCoherent_handle (plain : service.root.IsPlain) (coherent : world.IsCoherent service)
    (event : Event) : (world.take service (.handle event)).IsCoherent service := by
  have drops := Service.handleEvent_yields (C := C) service event
  by_cases waiting : event ∈ world.pending
  · refine ⟨?_, fun other member => coherent.named other (List.mem_of_mem_erase member)⟩
    -- What this event dooms is set apart from what other events doom, and only the former is
    -- dropped.
    have later : world.deployment.IsCoherent service fun key =>
        Event.Pending (world.pending.erase event) key ∨ event.Dooms key := by
      refine coherent.deployment.mono fun key gone => ?_
      rcases gone with ⟨other, member, gone⟩ | nobody
      · by_cases same : other = event
        · exact .inr (same ▸ gone)
        · exact .inl (.inl ⟨other, (List.mem_erase_of_ne same).2 member, gone⟩)
      · exact .inl (.inr nobody)
    have named := coherent.named event waiting
    refine later.drop plain drops fun root => Task.sweeps_mono
      (Service.handleEvent_sweeps root fun deletion member => (named deletion member).isWhole) ?_
    rintro written ⟨key, ⟨deletion, member, covers⟩, found⟩
    exact ⟨deletion, member, key, (named deletion member).reaches covers, found⟩
  · have same : world.pending.erase event = world.pending := List.erase_of_not_mem waiting
    refine ⟨?_, fun other member => coherent.named other (List.mem_of_mem_erase member)⟩
    change Deployment.IsCoherent service (Event.Pending (world.pending.erase event)) _
    rw [same]
    exact (Deployment.shrinks_of_dropping drops _).isCoherent coherent.deployment

theorem isCoherent_take (plain : service.root.IsPlain) (now : service.now.inCalendar = true)
    (coherent : world.IsCoherent service) {step : Step R} (proper : step.IsPlain) :
    (world.take service step).IsCoherent service := by
  cases step with
  | ask request =>
    have spreads := Event.spreads_pending world.pending
    exact ⟨(Service.perform_answer request spreads coherent.deployment).2.2, coherent.named⟩
  | recordImpressions identity posts =>
    exact ⟨Service.isCoherent_recordImpressions coherent.deployment plain proper now posts,
      coherent.named⟩
  | rebuildInterest identity =>
    exact ⟨Service.isCoherent_rebuildInterest coherent.deployment plain proper, coherent.named⟩
  | purgeSeen => exact ⟨Service.isCoherent_purgeSeen coherent.deployment, coherent.named⟩
  | change made => exact isCoherent_change coherent proper.1 proper.2
  | handle event => exact isCoherent_handle plain coherent event

theorem isCoherent_takeAll (plain : service.root.IsPlain) (now : service.now.inCalendar = true)
    {steps : List (Step R)} (proper : ∀ step ∈ steps, step.IsPlain)
    (coherent : world.IsCoherent service) : (world.takeAll service steps).IsCoherent service := by
  induction steps generalizing world with
  | nil => exact coherent
  | cons step rest ih =>
    exact ih (fun later member => proper later (List.mem_cons_of_mem _ member))
      (isCoherent_take plain now coherent (proper step List.mem_cons_self))

/-- Without pending events a request on a coherent world ends as on one with an empty cache. -/
theorem perform_eq_cold (coherent : world.IsCoherent service) (quiet : world.pending = [])
    (request : Request R) :
    (world.deployment.perform (service.answer request)).1 =
      (({ world.deployment with cache := .empty } : Deployment C R).perform
        (service.answer request)).1 := by
  have spreads := Event.spreads_pending []
  have warm := coherent.deployment
  rw [quiet] at warm
  have cold : ({ world.deployment with cache := .empty } : Deployment C R).IsCoherent service
      (Event.Pending []) :=
    ⟨warm.quiet, rfl, warm.dated, CacheStore.holds_of_empty rfl⟩
  have same : world.deployment.SameStores { world.deployment with cache := .empty } :=
    ⟨rfl, rfl, rfl, rfl⟩
  cases nobody : request.requester.isEmpty with
  | true =>
    obtain ⟨stop, refused⟩ := Service.perform_of_nobody (C := C) service nobody
    rw [refused, refused]
  | false =>
    -- Nothing is pending, and what is of nobody is not looked up.
    have fresh (excuse : ∃ key, request.LooksUp key ∧ Event.Pending [] key) : False := by
      obtain ⟨key, reads, ⟨event, member, _⟩ | empty⟩ := excuse
      · cases member
      · rw [Request.owner_of_looksUp reads, nobody] at empty
        cases empty
    have ended := (Service.perform_answer request spreads warm).1.resolve_left fresh
    have ended' := (Service.perform_answer request spreads cold).1.resolve_left fresh
    rw [ended, ended', Deployment.answers_congr same]

end World

/-- Whatever was asked, ordered, changed and handled before in whatever order, once no event is
pending every request ends as it would with an empty cache. -/
theorem takeAll_answers_as_cold [FaithfulText R] (service : Service R) (start : Deployment C R)
    (steps : List (Step R)) (plain : service.root.IsPlain) (now : service.now.inCalendar = true)
    (proper : ∀ step ∈ steps, step.IsPlain) (works : start.rules = [])
    (on : start.cache.isOn = true) (empty : start.cache.entries = [])
    (dated : start.tables.IsDated)
    (handled : (World.takeAll service ⟨start, []⟩ steps).pending = []) (request : Request R) :
    let reached := (World.takeAll service ⟨start, []⟩ steps).deployment
    (reached.perform (service.answer request)).1 =
      (({ reached with cache := .empty } : Deployment C R).perform (service.answer request)).1 := by
  refine World.perform_eq_cold (World.isCoherent_takeAll plain now proper ⟨?_, ?_⟩) handled request
  · exact ⟨works, on, dated, CacheStore.holds_of_empty empty⟩
  · exact fun event member => absurd member List.not_mem_nil

/-- A reader with an interest, and a private author of a post whom the reader comes to follow. -/
def newFollower : Deployment ℚ ℚ :=
  { Deployment.empty with
    tables := {
      users := [⟨"ann", "ann", none, none, false, some (List.replicate 1024 (.int 1)), .null, none⟩,
        ⟨"bob", "bob", none, none, true, none, .null, none⟩]
      follows := []
      blocks := []
      posts := [⟨"0f0e0d0c-0b0a-4908-8706-050403020100", "bob", some "hello", ⟨0, 0⟩, 0, 0, [], none,
        none, none, none⟩]
      saves := []
      seen := [] }
    fixedSearch := some [⟨"0f0e0d0c-0b0a-4908-8706-050403020100", 1, none⟩] }

/-- Feeds before the follow, before its event is handled and after that, and other steps between. -/
def followRun : List (Step ℚ) :=
  let feed : FeedRequest ℚ := ⟨"ann", .null, .null, []⟩
  [.rebuildInterest "ann", .ask (.feed feed), .change (.addFollow ("ann", "bob")),
    .change (.setPrivate "ann" true), .ask (.feed feed), .purgeSeen,
    .handle ⟨.privacyChanged, "ann", none, none⟩,
    .recordImpressions "ann" [.string "0f0e0d0c-0b0a-4908-8706-050403020100"],
    .handle ⟨.followChanged, "ann", some "bob", none⟩, .ask (.feed feed)]

/-- The last feed of the run is kept, and it shows the post as a feed without a cache does. -/
theorem takeAll_answers_as_cold_of_followRun :
    let service : Service ℚ := .standard "discovery" ⟨0, 0⟩
    let reached := World.takeAll service ⟨newFollower, []⟩ followRun
    let request : Request ℚ := .feed ⟨"ann", .null, .null, []⟩
    reached.pending = [] ∧
      "discovery:page:ann:default:20:start" ∈ reached.deployment.cache.keys ∧
      (reached.deployment.perform (service.answer request)).1.toOption.map
          (fun answer => answer.items.map FeedItem.postId) =
        some [("0f0e0d0c-0b0a-4908-8706-050403020100" : Text)] ∧
      (reached.deployment.perform (service.answer request)).1 =
        (({ reached.deployment with cache := .empty } : Deployment ℚ ℚ).perform
          (service.answer request)).1 := by
  refine ⟨rfl, by decide +kernel, by decide +kernel,
    takeAll_answers_as_cold _ _ followRun (by decide) (by decide) ?_ rfl rfl rfl ?_ rfl _⟩
  · intro step member
    simp only [followRun, List.mem_cons, List.not_mem_nil, or_false] at member
    rcases member with rfl | rfl | rfl | rfl | rfl | rfl | rfl | rfl | rfl | rfl
    · exact (by decide : (("ann" : String) : Text).IsPlain)
    · trivial
    · exact ⟨by decide, fun mark same => by cases same⟩
    · exact ⟨by decide, fun mark same => by cases same⟩
    · trivial
    · trivial
    · trivial
    · exact (by decide : (("ann" : String) : Text).IsPlain)
    · trivial
    · trivial
  · refine ⟨fun row member => ?_, fun mark member => absurd member List.not_mem_nil⟩
    rw [List.mem_singleton.1 member]
    exact ⟨rfl, by decide⟩

end PersonalFeed
