import Mathlib.Data.List.TakeWhile
import PersonalFeed.Proofs.Coherence.Drops
import PersonalFeed.Proofs.Coherence.Runs

/-!
Events that come again or in another order. What an event drops is settled by the event alone, and
not by what was dropped before it, so a cache that has handled some events is told by which events
those were: neither their order nor their number matters, and payloads that hold no event do
nothing.
-/

set_option autoImplicit false

namespace PersonalFeed

variable {C R : Type}

theorem isSome_mapM {α β : Type} (f : α → Option β) (xs : List α) :
    (xs.mapM f).isSome = xs.all fun x => (f x).isSome := by
  induction xs with
  | nil => rfl
  | cons x rest ih =>
    rw [List.mapM_cons, List.all_cons, ← ih]
    cases f x <;> cases rest.mapM f <;> rfl

namespace Deletion

/-- Which written keys a deletion drops. One whose keys or pattern have no form in bytes stops. -/
def selector? (root : Text) : Deletion → Option (String → Bool)
  | keys dropped => ((dropped.map (·.text root)).mapM Text.toString?).map List.contains
  | pages given => (CacheKey.pagesPattern root given).toString?.map Glob.selects
  | similar given => (CacheKey.similarPattern root given).toString?.map Glob.selects

def clears (root : Text) : List Deletion → String → Bool
  | [], _ => false
  | deletion :: rest, written =>
    match deletion.selector? root with
    | some gone => gone written || clears root rest written
    | none => false

end Deletion

@[simp] theorem CacheKey.isWhole_patternPart_none : (patternPart none).isWhole = true := by decide

@[simp] theorem CacheKey.isWhole_patternPart_some (part : Text) :
    (patternPart (some part)).isWhole = part.isWhole := by
  rw [patternPart]
  by_cases none : part.isEmpty = true
  · have bare : part = ⟨[]⟩ := Text.codes_inj (List.isEmpty_iff.1 none)
    rw [if_pos none, bare]
    rfl
  · rw [if_neg none]

namespace Deletion

variable (root : Text)

@[simp] theorem isSome_keys (dropped : List CacheKey) :
    ((keys dropped).selector? root).isSome =
      dropped.all fun key => root.isWhole && key.parts.all Text.isWhole := by
  rw [selector?, Option.isSome_map, isSome_mapM, List.all_map]
  simp [Function.comp_def, Text.toString?_isSome, CacheKey.text, CacheKey.isWhole_join]

@[simp] theorem isSome_pages (given : Option Text) :
    ((pages given).selector? root).isSome =
      (root.isWhole && (CacheKey.patternPart given).isWhole) := by
  simp [selector?, Text.toString?_isSome, CacheKey.pagesPattern, CacheKey.isWhole_join]

@[simp] theorem isSome_similar (given : Option Text) :
    ((similar given).selector? root).isSome =
      (root.isWhole && (CacheKey.patternPart given).isWhole) := by
  simp [selector?, Text.toString?_isSome, CacheKey.similarPattern, CacheKey.isWhole_join]

end Deletion

namespace Event

def clears (root : Text) (event : Event) : String → Bool := Deletion.clears root event.deletions

def isWritten (root : Text) (event : Event) : Bool :=
  event.deletions.all fun deletion => (deletion.selector? root).isSome

def named (event : Event) : List Text :=
  match event.kind with
  | .privacyChanged => []
  | .blockChanged => event.parties
  | .followChanged | .postCreated | .postSaved | .seenRecorded => [event.actor]

def of? (message : Json R) : Option Event :=
  match read message with
  | .valid event => some event
  | .invalid _ => none

/-- The events of messages before the first that stops. -/
def taken (root : Text) (messages : List (Json R)) : List Event :=
  (messages.filterMap of?).takeWhile (·.isWritten root)

theorem isWritten_iff {root : Text} {event : Event} :
    event.isWritten root = true ↔
      root.isWhole = true ∧ ∀ person ∈ event.named, person.isWhole = true := by
  have actor := event.actor_mem_parties
  rw [isWritten, deletions, named]
  cases event.kind with
  | privacyChanged => simp
  | blockChanged =>
    simp only [List.all_cons, List.all_map, List.all_flatMap, List.all_nil, Function.comp_def,
      Deletion.isSome_keys, Deletion.isSome_pages, Deletion.isSome_similar, CacheKey.parts,
      CacheKey.isWhole_patternPart_some, Bool.and_true, Bool.and_self, Bool.and_eq_true,
      List.all_eq_true]
    exact ⟨fun each => ⟨(each _ actor).1, fun person side => (each person side).2⟩,
      fun whole person side => ⟨whole.1, whole.2 person side⟩⟩
  | followChanged | postCreated | postSaved | seenRecorded =>
    simp [CacheKey.parts]

theorem isWritten_of_first (root : Text) (event : Event) :
    ∃ deletion rest, event.deletions = deletion :: rest ∧
      ((deletion.selector? root).isSome = true → event.isWritten root = true) := by
  simp only [isWritten_iff]
  unfold deletions named
  cases event.kind with
  | blockChanged =>
    refine ⟨_, _, rfl, fun written => ?_⟩
    simp only [Deletion.isSome_keys, List.all_map, Function.comp_def, CacheKey.parts, List.all_cons,
      List.all_nil, Bool.and_true, List.all_eq_true, Bool.and_eq_true] at written
    exact ⟨(written _ event.actor_mem_parties).1, fun person side => (written person side).2⟩
  | followChanged | postCreated | privacyChanged | postSaved | seenRecorded =>
    exact ⟨_, _, rfl, by simp [CacheKey.parts]⟩

theorem clears_of_unwritten {root : Text} {event : Event} (unwritten : event.isWritten root = false)
    (written : String) : event.clears root written = false := by
  obtain ⟨deletion, rest, led, whole⟩ := isWritten_of_first root event
  rw [clears, led, Deletion.clears]
  cases found : deletion.selector? root with
  | none => rfl
  | some gone =>
    have every := whole (by rw [found]; rfl)
    rw [every] at unwritten
    cases unwritten

end Event

variable [Score R] [Component C R]

namespace Deployment

variable (service : Service R) (deployment : Deployment C R)

theorem perform_dropAny (pattern : Text) :
    deployment.perform (do let _ ← Service.dropMatching pattern) =
      deployment.clearing (pattern.toString?.map Glob.selects) := by
  cases encoded : pattern.toString? with
  | none =>
    have stopped : deployment.perform (Service.dropMatching pattern) =
        (.error (.fault (.broken .unencodable)), deployment) := by
      rw [Service.dropMatching, Task.encoded_of_none encoded]
      rfl
    exact perform_bind_error stopped _
  | some written =>
    obtain ⟨count, ended⟩ := perform_dropMatching deployment encoded
    exact perform_bind_ok ended _

theorem perform_applyDeletion (deletion : Deletion) :
    deployment.perform (service.applyDeletion deletion) =
      deployment.clearing (deletion.selector? service.root) := by
  cases deletion with
  | keys dropped => exact perform_dropAll deployment (dropped.map service.key)
  | pages given => exact perform_dropAny deployment _
  | similar given => exact perform_dropAny deployment _

theorem perform_applyDeletions (deletions : List Deletion) :
    deployment.perform (deletions.forM service.applyDeletion) =
      (if deletions.all fun deletion => (deletion.selector? service.root).isSome then .ok ()
        else .error (.fault (.broken .unencodable)),
      deployment.dropped (Deletion.clears service.root deletions)) := by
  induction deletions generalizing deployment with
  | nil =>
    rw [dropped_of_none _ (by simp [Deletion.clears])]
    rfl
  | cons deletion rest ih =>
    have first := perform_applyDeletion service deployment deletion
    cases found : deletion.selector? service.root with
    | none =>
      rw [found] at first
      rw [dropped_of_none _ (by simp [Deletion.clears, found])]
      exact (perform_bind_error first _).trans (by simp [found])
    | some gone =>
      rw [found] at first
      apply (perform_bind_ok first _).trans
      rw [ih, dropped_dropped]
      simp [found, Deletion.clears]

/-- The handling of an event drops what the event tells, or stops for want of a form in bytes. -/
theorem perform_handleEvent (event : Event) :
    ∃ metrics, deployment.perform (service.handleEvent event) =
      (if event.isWritten service.root then .ok () else .error (.fault (.broken .unencodable)),
        { deployment.dropped (event.clears service.root) with metrics := metrics }) := by
  have ended := perform_applyDeletions service deployment event.deletions
  rw [Service.handleEvent, Event.isWritten, Event.clears]
  split
  · rename_i written
    rw [if_pos written] at ended
    rw [perform_bind_ok ended]
    exact ⟨_, rfl⟩
  · rename_i unwritten
    rw [if_neg unwritten] at ended
    rw [perform_bind_error ended]
    exact ⟨_, rfl⟩

theorem perform_handleMessage (message : Json R) :
    match Event.of? message with
    | some event => ∃ metrics, deployment.perform (service.handleMessage message) =
        (if event.isWritten service.root then .ok true
          else .error (.fault (.broken .unencodable)),
          { deployment.dropped (event.clears service.root) with metrics := metrics })
    | none => deployment.perform (service.handleMessage message) = (.ok false, deployment) := by
  rw [Service.handleMessage, Event.of?]
  cases Event.read message with
  | invalid violations => rfl
  | valid event =>
    obtain ⟨metrics, ended⟩ := perform_handleEvent service deployment event
    refine ⟨metrics, ?_⟩
    cases written : event.isWritten service.root with
    | true =>
      rw [written] at ended
      exact perform_bind_ok ended _
    | false =>
      rw [written] at ended
      exact perform_bind_error ended _

/-- A message that was dropped on its way holds no event, so it is as if it were handled. -/
theorem perform_handleAll_cons (message : Json R) (rest : List (Json R)) :
    deployment.perform (service.handleAll (message :: rest)) =
      deployment.perform (service.handleMessage message >>= fun _ => service.handleAll rest) := by
  cases message with
  | null =>
    have passed : deployment.perform (service.handleMessage .null) = (.ok false, deployment) := rfl
    rw [perform_bind_ok passed]
    rfl
  | bool | int | real | string | array | object => rfl

/-- Messages are handled up to the first event that stops, and what they drop is told by the events
before it. -/
theorem perform_handleAll (messages : List (Json R)) :
    ∃ metrics, deployment.perform (service.handleAll messages) =
      (if (messages.filterMap Event.of?).all (·.isWritten service.root) then .ok ()
        else .error (.fault (.broken .unencodable)),
      { deployment.dropped (fun written =>
          (Event.taken service.root messages).any (·.clears service.root written)) with
        metrics := metrics }) := by
  induction messages generalizing deployment with
  | nil =>
    have all : deployment.dropped (fun _ => false) = deployment := dropped_of_none _ fun _ => rfl
    exact ⟨deployment.metrics, congrArg (fun after : Deployment C R =>
      (Except.ok (), { after with metrics := deployment.metrics })) all.symm⟩
  | cons message rest ih =>
    have handled := perform_handleMessage service deployment message
    rw [perform_handleAll_cons, Event.taken]
    cases held : Event.of? message with
    | none =>
      rw [held] at handled
      rw [perform_bind_ok handled, List.filterMap_cons_none held]
      exact ih deployment
    | some event =>
      rw [held] at handled
      obtain ⟨metrics, handled⟩ := handled
      rw [List.filterMap_cons_some held, List.all_cons, List.takeWhile_cons]
      cases written : event.isWritten service.root with
      | true =>
        rw [written] at handled
        rw [perform_bind_ok handled]
        obtain ⟨counted, ended⟩ := ih { deployment.dropped (event.clears service.root) with
          metrics := metrics }
        refine ⟨counted, ended.trans ?_⟩
        have both : (deployment.dropped (event.clears service.root)).dropped (fun written =>
            (Event.taken service.root rest).any (·.clears service.root written)) =
              deployment.dropped fun written =>
                (event :: Event.taken service.root rest).any (·.clears service.root written) :=
          dropped_dropped
        exact congrArg (fun after : Deployment C R =>
          (_, { after with metrics := counted })) both
      | false =>
        rw [written] at handled
        rw [perform_bind_error handled]
        -- An event that stops drops nothing, and what comes after it is not handled.
        have all : deployment.dropped (event.clears service.root) =
            deployment.dropped fun _ => false :=
          (dropped_of_none _ (Event.clears_of_unwritten written)).trans
            (dropped_of_none _ fun _ => rfl).symm
        exact ⟨metrics, congrArg (fun after : Deployment C R =>
          (Except.error _, { after with metrics := metrics })) all⟩

theorem cache_handleAll (messages : List (Json R)) :
    (deployment.perform (service.handleAll messages)).2.cache =
      deployment.cache.dropped fun written =>
        (Event.taken service.root messages).any (·.clears service.root written) := by
  obtain ⟨_, ended⟩ := perform_handleAll service deployment messages
  rw [ended]
  rfl

theorem handleAll_isOk {messages : List (Json R)}
    (written : ∀ event ∈ messages.filterMap Event.of?, event.isWritten service.root = true) :
    (deployment.perform (service.handleAll messages)).1 = .ok () := by
  obtain ⟨_, ended⟩ := perform_handleAll service deployment messages
  rw [ended]
  exact if_pos (List.all_eq_true.2 written)

/-- Sequences of messages that hold the same events, in any orders and numbers and between any
payloads that hold none, are handled to their ends and leave the same cache, if every event has a
form in bytes. Whatever the messages are, the cache is the one from before without some of its
entries. A message is rejected if it holds no event, and only then, and it changes nothing; one
that stops holds an event without a form in bytes, and it leaves the cache as it was. -/
theorem handleAll_ignores_order {messages others : List (Json R)}
    (same : ∀ event, event ∈ messages.filterMap Event.of? ↔ event ∈ others.filterMap Event.of?) :
    ((∀ event ∈ messages.filterMap Event.of?,
        service.root.isWhole = true ∧ ∀ person ∈ event.named, person.isWhole = true) →
      (deployment.perform (service.handleAll messages)).1 = .ok () ∧
      (deployment.perform (service.handleAll others)).1 = .ok () ∧
      (deployment.perform (service.handleAll others)).2.cache =
        (deployment.perform (service.handleAll messages)).2.cache) ∧
    (∃ keeps, (deployment.perform (service.handleAll messages)).2.cache =
      { deployment.cache with entries := deployment.cache.entries.filter keeps }) ∧
    ∀ (other : Deployment C R) (message : Json R),
      ((other.perform (service.handleMessage message)).1 = .ok false ↔
        ∃ violations, Event.read message = .invalid violations) ∧
      ((other.perform (service.handleMessage message)).1 = .ok false →
        (other.perform (service.handleMessage message)).2 = other) ∧
      ∀ stop, (other.perform (service.handleMessage message)).1 = .error stop →
        (other.perform (service.handleMessage message)).2.cache = other.cache ∧
        ∃ event, Event.read message = .valid event ∧
          ¬ (service.root.isWhole = true ∧ ∀ person ∈ event.named, person.isWhole = true) := by
  refine ⟨fun whole => ?_, ?_, fun other message => ?_⟩
  · have written : ∀ event ∈ messages.filterMap Event.of?, event.isWritten service.root = true :=
      fun event member => Event.isWritten_iff.2 (whole event member)
    have written' : ∀ event ∈ others.filterMap Event.of?, event.isWritten service.root = true :=
      fun event member => written event ((same event).2 member)
    refine ⟨handleAll_isOk service deployment written, handleAll_isOk service deployment written', ?_⟩
    -- No event stops, so what is left of the cache is told by the set of all of them.
    rw [cache_handleAll, cache_handleAll, Event.taken, Event.taken,
      List.takeWhile_eq_self_iff.2 written, List.takeWhile_eq_self_iff.2 written']
    congr
    funext key
    rw [Bool.eq_iff_iff, List.any_eq_true, List.any_eq_true]
    simp only [same]
  · rw [cache_handleAll]
    exact CacheStore.exists_filter _ _
  · have handled := perform_handleMessage service other message
    unfold Event.of? at handled
    cases read : Event.read message with
    | invalid violations =>
      rw [read] at handled
      rw [handled]
      simp
    | valid event =>
      rw [read] at handled
      obtain ⟨metrics, handled⟩ := handled
      rw [handled]
      cases written : event.isWritten service.root with
      | true => simp
      | false =>
        refine ⟨by simp, by simp, fun stop stopped => ⟨?_, event, rfl, ?_⟩⟩
        · have stays := congrArg Deployment.cache
            (dropped_of_none other (Event.clears_of_unwritten written))
          exact stays
        · rw [← Event.isWritten_iff, written]
          exact Bool.false_ne_true

end Deployment

def keptAnswers : Deployment ℚ ℚ :=
  { Deployment.empty with cache :=
    ⟨[("discovery:page:ann:default:20:start", .document .null),
      ("discovery:similar:1:ann:20", .document .null),
      ("discovery:page:bob:default:20:start", .document .null),
      ("discovery:page:eve:default:20:start", .document .null)], [], true⟩ }

/-- A follow that comes twice around a block leaves what the block and the follow leave, that is the
page of a third reader. -/
theorem handleAll_ignores_order_of_keptAnswers :
    let service : Service ℚ := .standard "discovery" ⟨0, 0⟩
    let follow : Json ℚ := .object [("type", .string "follow_changed"), ("actor_id", .string "ann")]
    let block : Json ℚ := .object [("type", .string "block_changed"), ("actor_id", .string "bob"),
      ("target_id", .string "ann"), ("note", .int 1)]
    let messages := [follow, .null, block, .object [("type", .string "follow_changed")], follow]
    let others := [block, follow]
    (∀ event, event ∈ messages.filterMap Event.of? ↔ event ∈ others.filterMap Event.of?) ∧
      (keptAnswers.perform (service.handleAll messages)).1 = .ok () ∧
      (keptAnswers.perform (service.handleAll others)).2.cache =
        (keptAnswers.perform (service.handleAll messages)).2.cache ∧
      (keptAnswers.perform (service.handleAll messages)).2.cache.keys =
        ["discovery:page:eve:default:20:start"] := by
  intro service follow block messages others
  have announced : messages.filterMap Event.of? =
    [⟨.followChanged, "ann", none, none⟩, ⟨.blockChanged, "bob", some "ann", none⟩,
      ⟨.followChanged, "ann", none, none⟩] := rfl
  have announced' : others.filterMap Event.of? =
    [⟨.blockChanged, "bob", some "ann", none⟩, ⟨.followChanged, "ann", none, none⟩] := rfl
  have same : ∀ event,
      event ∈ messages.filterMap Event.of? ↔ event ∈ others.filterMap Event.of? := by
    intro event
    rw [announced, announced']
    simp
    tauto
  have whole : ∀ event ∈ messages.filterMap Event.of?,
      service.root.isWhole = true ∧ ∀ person ∈ event.named, person.isWhole = true := by
    rw [announced]
    decide
  obtain ⟨ended, -, left⟩ := (Deployment.handleAll_ignores_order service keptAnswers same).1 whole
  refine ⟨same, ended, ?_, by decide +kernel⟩
  -- The two sides differ in the instance for roots, and unfolding the runs to see it is slow.
  convert left

/-- An event of someone whose id has no form in bytes ends the loop, so a follow that comes after it
takes nothing away. -/
example :
    let service : Service ℚ := .standard "discovery" ⟨0, 0⟩
    let lone : Json ℚ := .object [("type", .string "follow_changed"),
      ("actor_id", .string ⟨[.half 0]⟩)]
    let follow : Json ℚ := .object [("type", .string "follow_changed"), ("actor_id", .string "ann")]
    (keptAnswers.perform (service.handleAll [lone, follow])).2.cache.keys.length = 4 ∧
      (keptAnswers.perform (service.handleAll [follow, lone])).2.cache.keys.length = 2 := by
  decide +kernel

end PersonalFeed
