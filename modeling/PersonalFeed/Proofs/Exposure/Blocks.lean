import PersonalFeed.Proofs.Coherence.Runs
import PersonalFeed.Proofs.Exposure.Apart
import PersonalFeed.Proofs.Exposure.Outages

/-!
Blocks that were handled. Nothing is left in the cache of the sets and answers of the two sides, so
from then on each set of blocks is one that the store knows, and no answer to one side shows the
other, whatever was cached before and whatever fails after.
-/

set_option autoImplicit false

namespace PersonalFeed

variable {C R : Type}

/-- The keys of what can show a reader an author: the reader's set of blocks and answers. -/
def CacheKey.IsAbout (reader : Text) (key : CacheKey) : Prop :=
  key = .blocks reader ∨ key.IsPageOf reader ∨ key.IsListFor reader

theorem apart_of_aside [Numeral R] {reader author : Text} {key : CacheKey} {entry : CacheEntry R}
    (aside : ¬ key.IsAbout reader) : Apart reader author key entry := by
  cases key with
  | blocks identity =>
    rintro rfl
    exact absurd (.inl rfl) aside
  | page identity fingerprint size cursor =>
    rintro rfl
    exact absurd (.inr (.inl ⟨_, _, _, rfl⟩)) aside
  | similar post requester limit =>
    rintro rfl
    exact absurd (.inr (.inr ⟨_, _, rfl⟩)) aside
  | interestVector | follows | seen | topics | profile => trivial

def CacheStore.KeepsApart [Numeral R] (root reader author : Text) (trusted : CacheKey → Prop)
    (cache : CacheStore R) : Prop :=
  ∀ entry ∈ cache.entries, ∀ key : CacheKey, key.IsProper →
    (key.text root).toString? = some entry.1 → trusted key → Apart reader author key entry.2

/-- The tables know of a block, and the trusted entries of the cache keep its sides apart. -/
structure Deployment.KeepsApart [Numeral R] (root reader author : Text)
    (trusted : CacheKey → Prop) (deployment : Deployment C R) : Prop where
  blocked : author ∈ deployment.tables.blocked reader
  cache : deployment.cache.KeepsApart root reader author trusted

namespace CacheStore

variable [Numeral R] {root reader author : Text} {trusted : CacheKey → Prop} {cache : CacheStore R}

theorem keepsApart_write (keeps : cache.KeepsApart root reader author trusted) {key : CacheKey}
    {value : Json R} (proper : key.IsProper) (kept : Apart reader author key (.document value))
    (lifetime : Int) :
    (cache.write (key.text root) value lifetime).KeepsApart root reader author trusted := by
  unfold write
  split
  · rename_i written encoded
    split
    · intro entry member other named found trust
      rcases mem_assign member with rfl | member
      · rwa [CacheKey.string_inj named proper found encoded]
      · exact keeps entry member other named found trust
    · exact keeps
  · exact keeps

theorem apart_of_read (keeps : cache.KeepsApart root reader author trusted) {key : CacheKey}
    {written : String} {entry : CacheEntry R} (proper : key.IsProper)
    (encoded : (key.text root).toString? = some written)
    (found : cache.read written = .found entry) (trust : trusted key) :
    Apart reader author key entry := by
  unfold read at found
  split at found
  · split at found
    · rename_i other present
      cases found
      obtain ⟨pair, first, rfl⟩ := Option.map_eq_some_iff.1 present
      have same : pair.1 = written := by simpa using List.find?_some first
      exact keeps pair (List.mem_of_find?_eq_some first) key proper (same ▸ encoded) trust
    · cases found
  · cases found

end CacheStore

namespace Deployment

variable [Score R] [Component C R] {root reader author : Text} {trusted : CacheKey → Prop}
  {deployment : Deployment C R}

theorem admits_apart (keeps : deployment.KeepsApart root reader author trusted) (call : Call C R) :
    (apart root reader author trusted).admits call (reply call deployment).1 := by
  cases call with
  | query query =>
    cases query with
    | blocked identity =>
      -- Only the reader's own set of blocks is promised to hold the author.
      rintro - rfl ids answered
      obtain ⟨after, ran⟩ := run_of_answer answered
      have same : deployment.tables.blocked identity = ids :=
        congrArg Prod.fst (Except.ok.inj (Tables.ok_of_run ran).2)
      exact same ▸ keeps.blocked
    | _ => trivial
  | read key =>
    exact fun entry found name proper encoded trust =>
      CacheStore.apart_of_read keeps.cache proper encoded found trust
  | search | retrieve | index | openIndex | write | delete | scan | count => trivial

theorem reply_frame (deployment : Deployment C R) {call : Call C R}
    (allowed : (apart root reader author trusted).allows call) :
    (reply call deployment).2.tables = deployment.tables ∧
      (reply call deployment).2.cache.isOn = deployment.cache.isOn := by
  refine ⟨tables_reply (fun _ same => by cases same; exact allowed) deployment, ?_⟩
  cases call with
  | query | search | retrieve | read | count => rw [cache_reply (by simp) (by simp)]
  | index | openIndex | delete | scan => exact allowed.elim
  | write => exact CacheStore.isOn_write _ _ _ _

/-- Stores that keep two people apart go on to do so, if the sets of blocks were trusted. -/
theorem keepsApart_reply {relied : CacheKey → Prop} (fresh : relied (.blocks reader))
    {call : Call C R} (allowed : (apart root reader author relied).allows call)
    (keeps : deployment.KeepsApart root reader author trusted) :
    (reply call deployment).2.KeepsApart root reader author trusted := by
  refine ⟨(reply_frame deployment allowed).1 ▸ keeps.blocked, ?_⟩
  cases call with
  | query | search | retrieve | read | count =>
    -- The calls that a request may make leave the cache, but for a write.
    rw [cache_reply (by simp) (by simp)]
    exact keeps.cache
  | index | openIndex | delete | scan => exact allowed.elim
  | write key value lifetime =>
    obtain ⟨name, proper, rfl, kept⟩ := allowed
    exact CacheStore.keepsApart_write keeps.cache proper (kept fresh) lifetime

/-- Stores that keep replying or fail keep two people apart, if all cached values are trusted. -/
theorem keptBy_apart (fails : Nat → Call C R → Option Failure) :
    (apart root reader author fun _ => True).KeptBy (replyUnless fails)
      fun state => state.2.KeepsApart root reader author fun _ => True := by
  rintro call ⟨place, deployment⟩ keeps allowed
  cases fault : fails place call with
  | some failure =>
    rw [replyUnless_some fault]
    refine ⟨?_, keeps⟩
    cases call with
    | query query =>
      cases query with
      | blocked identity =>
        exact fun _ _ ids answered => absurd answered (outcome_ne_answer failure ids)
      | _ => trivial
    | read key => exact fun entry found => by cases found
    | search | retrieve | index | openIndex | write | delete | scan | count => trivial
  | none =>
    rw [replyUnless_none fault]
    exact ⟨admits_apart keeps call, keepsApart_reply trivial allowed keeps⟩

end Deployment

def serveOver [Score R] [Component C R] (service : Service R) :
    List (Tables R × Turn C R) → Deployment C R → List (Turn C R × Except (Stop R) (Answer R))
  | [], _ => []
  | (tables, turn) :: rest, deployment =>
    let (result, deployment) := turn.serve service { deployment with tables := tables }
    (turn, result) :: serveOver service rest deployment

section

variable [Score R] [Component C R] [PlainText R] {service : Service R} {reader author : Text}

/-- One turn on stores that keep two people apart shows the one nothing by the other, and leaves the
stores so. -/
theorem Turn.serve_apart (differ : reader ≠ author) (turn : Turn C R) {deployment : Deployment C R}
    (keeps : deployment.KeepsApart service.root reader author fun _ => True) :
    (∀ answer, (turn.serve service deployment).1 = .ok answer →
        ∀ item ∈ answer.items, turn.request.requester = reader → item.authorId ≠ author) ∧
      (turn.serve service deployment).2.KeepsApart service.root reader author fun _ => True := by
  have yields := ({ service with now := turn.now }).answer_apart (C := C) differ turn.request
    fun _ => True
  obtain ⟨shown, keeps⟩ := Program.meets_run (Deployment.keptBy_apart turn.fails) yields
    (0, { deployment with
      index := turn.index
      fixedSearch := turn.fixedSearch
      fixedRetrieval := turn.fixedRetrieval }) ⟨keeps.blocked, keeps.cache⟩
  exact ⟨fun answer ended item member => shown answer ended item member fun _ => trivial, keeps⟩

theorem serveOver_apart (differ : reader ≠ author) {history : List (Tables R × Turn C R)}
    (blocked : ∀ step ∈ history, author ∈ step.1.blocked reader) {deployment : Deployment C R}
    (keeps : deployment.cache.KeepsApart service.root reader author fun _ => True) :
    ∀ entry ∈ serveOver service history deployment, ∀ answer, entry.2 = .ok answer →
      ∀ item ∈ answer.items, entry.1.request.requester = reader → item.authorId ≠ author := by
  induction history generalizing deployment with
  | nil => exact fun entry member => absurd member List.not_mem_nil
  | cons step rest ih =>
    obtain ⟨tables, turn⟩ := step
    have keeps : ({ deployment with tables := tables } : Deployment C R).KeepsApart service.root
        reader author fun _ => True := ⟨blocked _ List.mem_cons_self, keeps⟩
    obtain ⟨shown, keeps⟩ := Turn.serve_apart differ turn keeps
    intro entry member
    rcases List.mem_cons.1 member with rfl | member
    · exact shown
    · exact ih (fun later inside => blocked later (List.mem_cons_of_mem _ inside)) keeps.cache
        entry member

end

namespace Event

variable {event : Event}

theorem deletions_of_block (kind : event.kind = .blockChanged) :
    event.deletions = .keys (event.parties.map .blocks) ::
      event.parties.flatMap fun party => [.pages (some party), .similar (some party)] := by
  rw [deletions, kind]

theorem isWhole_of_block (kind : event.kind = .blockChanged)
    (whole : ∀ party ∈ event.parties, party.isWhole = true) :
    ∀ deletion ∈ event.deletions, deletion.IsWhole := by
  intro deletion member
  rw [deletions_of_block kind] at member
  rcases List.mem_cons.1 member with rfl | member
  · intro key inside part written
    obtain ⟨party, side, rfl⟩ := List.mem_map.1 inside
    rw [CacheKey.parts, List.mem_singleton] at written
    exact written ▸ whole party side
  · obtain ⟨party, side, member⟩ := List.mem_flatMap.1 member
    rcases List.mem_pair.1 member with rfl | rfl <;> rintro name ⟨⟩ <;> exact whole party side

/-- The handling of a block gets at the set of blocks, the pages and the lists of either side, if the
name of the side stands for itself in patterns. -/
theorem reaches_of_block (kind : event.kind = .blockChanged) {party : Text}
    (side : party ∈ event.parties) (plain : party.IsPlain) {key : CacheKey}
    (about : key.IsAbout party) :
    ∃ deletion ∈ event.deletions, deletion.Reaches key := by
  rw [deletions_of_block kind]
  have dropped {deletion : Deletion}
      (member : deletion ∈ [.pages (some party), Deletion.similar (some party)]) :
      deletion ∈ event.parties.flatMap fun party => [.pages (some party), .similar (some party)] :=
    List.mem_flatMap.2 ⟨party, side, member⟩
  rcases about with rfl | ⟨fingerprint, size, cursor, rfl⟩ | ⟨source, limit, rfl⟩
  · exact ⟨_, List.mem_cons_self, List.mem_map_of_mem side⟩
  · exact ⟨.pages (some party), List.mem_cons_of_mem _ (dropped List.mem_cons_self),
      .inr ⟨rfl, plain⟩⟩
  · exact ⟨.similar (some party),
      List.mem_cons_of_mem _ (dropped (List.mem_cons_of_mem _ List.mem_cons_self)),
      .inr ⟨rfl, plain⟩⟩

end Event

theorem Service.handleEvent_opens (service : Service R) (root : service.root.isWhole = true)
    {event : Event} (kind : event.kind = .blockChanged)
    (whole : ∀ party ∈ event.parties, party.isWhole = true) :
    ∃ written next, (service.handleEvent event : Task C R Unit).run = .ask (.delete written) next ∧
      ∀ party ∈ event.parties, ∀ s, (service.key (.blocks party)).toString? = some s →
        s ∈ written := by
  have keys : ∀ key ∈ (event.parties.map CacheKey.blocks).map service.key,
      key.isWhole = true := by
    intro text member
    obtain ⟨key, inside, rfl⟩ := List.mem_map.1 member
    obtain ⟨party, side, rfl⟩ := List.mem_map.1 inside
    rw [Service.key, CacheKey.text, CacheKey.isWhole_join, root]
    simpa [CacheKey.parts] using whole party side
  -- An order to drop no key at all would not be given, so some side has to be named.
  have nonempty : (event.parties.map CacheKey.blocks).map service.key ≠ [] := by
    simpa using List.ne_nil_of_mem event.actor_mem_parties
  obtain ⟨written, next, opens, each⟩ := drop_opens (C := C) (R := R) keys nonempty
  have opens : (service.applyDeletion (.keys (event.parties.map CacheKey.blocks)) :
      Task C R Unit).run = .ask (.delete written) next := opens
  obtain ⟨next, opens⟩ := Task.opens_bind opens
    fun _ => (event.parties.flatMap fun party =>
      [Deletion.pages (some party), .similar (some party)]).forM service.applyDeletion
  obtain ⟨next, opens⟩ := Task.opens_bind opens fun _ => Task.count (.event event.kind)
  refine ⟨written, next, ?_, fun party side =>
    each _ (List.mem_map_of_mem (List.mem_map_of_mem side))⟩
  rw [handleEvent, Event.deletions_of_block kind]
  exact opens

variable [Score R] [Component C R]

/-- The handling of a block ends well, and nothing is left that can show one side the other. -/
theorem Service.handleBlock_sweeps (service : Service R) (deployment : Deployment C R)
    {actor target : Text} (post : Option Text) (root : service.root.IsName)
    (first : actor.isWhole = true) (second : target.isWhole = true)
    (someone : target.isEmpty = false) (on : deployment.cache.isOn = true) :
    ∃ handled,
      deployment.perform (service.handleEvent ⟨.blockChanged, actor, some target, post⟩) =
        (.ok (), handled) ∧
      ∀ party ∈ [actor, target], party.IsPlain → ∀ entry ∈ handled.cache.entries,
        ∀ key : CacheKey, key.IsAbout party → (service.key key).toString? ≠ some entry.1 := by
  -- An empty target is not a side of a block, and then only the actor's keys would be dropped.
  have parties : Event.parties ⟨.blockChanged, actor, some target, post⟩ = [actor, target] := by
    simp [Event.parties, someone]
  have whole : ∀ deletion ∈ (⟨.blockChanged, actor, some target, post⟩ : Event).deletions,
      deletion.IsWhole :=
    Event.isWhole_of_block rfl fun party side => by
      rw [parties] at side
      rcases List.mem_pair.1 side with rfl | rfl
      · exact first
      · exact second
  obtain ⟨value, handled, outcome, -, left⟩ :=
    Deployment.drops_of_sweeps (Service.handleEvent_sweeps root whole) on
  refine ⟨handled, outcome, fun party side plain entry member key about written => ?_⟩
  obtain ⟨deletion, dropped, reached⟩ := Event.reaches_of_block rfl (parties ▸ side) plain about
  exact left entry member ⟨deletion, dropped, key, reached, written⟩

/-- After a block was handled no page and no list of a side is in the cache, and as long as the block
stands, no answer to that side shows the other one, whatever else is in the tables by then. This is
so for every side whose name has no sign of a pattern. -/
theorem handleBlock_separates [PlainText R] (service : Service R) (deployment : Deployment C R)
    {actor target : Text} (post : Option Text) (root : service.root.IsName)
    (first : actor.isWhole = true) (second : target.isWhole = true)
    (someone : target.isEmpty = false) (on : deployment.cache.isOn = true) :
    let ended := deployment.perform (service.handleEvent ⟨.blockChanged, actor, some target, post⟩)
    ended.1 = .ok () ∧
      ∀ party ∈ [actor, target], party.IsPlain →
        (∀ entry ∈ ended.2.cache.entries,
          (∀ fingerprint size cursor,
            (service.key (.page party fingerprint size cursor)).toString? ≠ some entry.1) ∧
          ∀ source limit, (service.key (.similar source party limit)).toString? ≠ some entry.1) ∧
        ∀ other ∈ [actor, target], party ≠ other →
          ∀ history : List (Tables R × Turn C R),
            (∀ step ∈ history, (actor, target) ∈ step.1.blocks) →
            ∀ served ∈ serveOver service history ended.2, served.1.request.requester = party →
              ∀ answer, served.2 = .ok answer → ∀ item ∈ answer.items, item.authorId ≠ other := by
  obtain ⟨handled, outcome, gone⟩ :=
    service.handleBlock_sweeps deployment post root first second someone on
  intro ended
  have same : ended = (.ok (), handled) := outcome
  rw [same]
  refine ⟨rfl, fun party side plain => ⟨fun entry member => ?_, ?_⟩⟩
  · have left := gone party side plain entry member
    exact ⟨fun _ _ _ => left _ (.inr (.inl ⟨_, _, _, rfl⟩)),
      fun _ _ => left _ (.inr (.inr ⟨_, _, rfl⟩))⟩
  · intro other far differ history blocked served member asked answer answered item shown
    -- Nothing about the side is in the cache, so what is cached can be trusted.
    have keeps : handled.cache.KeepsApart service.root party other fun _ => True :=
      fun entry inside key _ written _ => apart_of_aside fun about =>
        gone party side plain entry inside key about written
    exact serveOver_apart differ
      (fun step inside => Tables.mem_blocked_of_side (blocked step inside) side far differ) keeps
      served member answer answered item shown asked

def staleAnswers : Deployment ℚ ℚ :=
  let page : FeedResponse ℚ := .empty "ann"
  let list : SimilarResponse ℚ := ⟨"0f0e0d0c-0b0a-4908-8706-050403020100", []⟩
  { Deployment.empty with
    cache := ⟨[("discovery:page:ann:default:20:start", .document page.toJson),
      ("discovery:similar:0f0e0d0c-0b0a-4908-8706-050403020100:b:o:b:10", .document list.toJson)],
      [], true⟩ }

theorem handleBlock_separates_of_staleAnswers :
    ("discovery" : Text).IsName ∧ ("ann" : Text).isWhole = true ∧
      ("b:o:b" : Text).isWhole = true ∧ ("b:o:b" : Text).isEmpty = false ∧
      staleAnswers.cache.isOn = true ∧
    let service : Service ℚ := .standard "discovery" ⟨0, 0⟩
    let ended :=
      staleAnswers.perform (service.handleEvent ⟨.blockChanged, "ann", some "b:o:b", none⟩)
    ended.1 = .ok () ∧
      ∀ history : List (Tables ℚ × Turn ℚ ℚ),
        (∀ step ∈ history, (("ann", "b:o:b") : Text × Text) ∈ step.1.blocks) →
        ∀ served ∈ serveOver service history ended.2, served.1.request.requester = "ann" →
          ∀ answer, served.2 = .ok answer → ∀ item ∈ answer.items, item.authorId ≠ "b:o:b" := by
  have root : ("discovery" : Text).IsName := by decide
  have plain : ("ann" : Text).IsPlain := by decide
  have first : ("ann" : Text).isWhole = true := rfl
  have second : ("b:o:b" : Text).isWhole = true := rfl
  obtain ⟨ended, apart⟩ := handleBlock_separates (.standard "discovery" ⟨0, 0⟩) staleAnswers none
    root first second rfl rfl
  exact ⟨root, first, second, rfl, rfl, ended,
    (apart _ List.mem_cons_self plain).2 _ (List.mem_cons_of_mem _ List.mem_cons_self) (by decide)⟩

end PersonalFeed
