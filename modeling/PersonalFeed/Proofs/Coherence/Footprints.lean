import PersonalFeed.Proofs.Coherence.Redelivery

/-!
What events take out of the cache, and what they leave. The keys and patterns of an event are made
for the values of some people; where no id holds a colon or a sign of a pattern they take these
values and no others.
-/

set_option autoImplicit false

namespace PersonalFeed

variable {C R : Type}

namespace Text

structure IsId (text : Text) : Prop where
  plain : text.IsPlain
  free : text.Lacks ':'
  named : text.isEmpty = false

end Text

/-- A key of the values of people, and about posts, whose ids have no colon. -/
structure CacheKey.IsParted (key : CacheKey) : Prop where
  owner : key.owner.Lacks ':'
  post : ∀ post requester limit, key = .similar post requester limit → post.Lacks ':'

namespace Deletion

def IsParted : Deletion → Prop
  | keys dropped => ∀ key ∈ dropped, key.artifact ≠ .feedPage ∧ key.artifact ≠ .similar
  | pages given | similar given => ∀ person, given = some person → person.IsId

variable {root : Text} {deletion : Deletion} {key : CacheKey} {gone : String → Bool}
variable {written : String}

theorem contains_written {keys : List Text} {strings : List String}
    (all : keys.mapM Text.toString? = some strings) {text : Text}
    (encoded : text.toString? = some written) : strings.contains written = true ↔ text ∈ keys := by
  rw [List.contains_iff_mem]
  induction keys generalizing strings with
  | nil =>
    cases all
    simp
  | cons first rest ih =>
    rw [List.mapM_cons] at all
    obtain ⟨head, one, all⟩ := Option.bind_eq_some_iff.1 all
    obtain ⟨tail, later, same⟩ := Option.bind_eq_some_iff.1 all
    cases same
    have heads : written = head ↔ text = first := by
      constructor
      · rintro rfl
        exact (Text.ofString_of_toString? encoded).symm.trans (Text.ofString_of_toString? one)
      · rintro rfl
        exact Option.some.inj (encoded.symm.trans one)
    rw [List.mem_cons, List.mem_cons, ih later, heads]

variable (plainRoot : root.IsPlain) (split : key.IsParted)
variable (encoded : (key.text root).toString? = some written)

include plainRoot split encoded

theorem selects_pages_iff {given : Option Text} {pattern : String}
    (ids : ∀ person, given = some person → person.IsId)
    (asked : (CacheKey.pagesPattern root given).toString? = some pattern) :
    Glob.selects pattern written = true ↔ (pages given).Covers key := by
  -- A pattern for everybody tells the kind alone; one for a person also tells the owner, as neither
  -- the person nor the owner of the key has a colon.
  constructor
  · intro selected
    cases given with
    | none =>
      have kind := (CacheKey.body_of_selects plainRoot asked encoded selected).1
      cases key with
      | page => exact .inl rfl
      | interestVector | follows | blocks | seen | topics | profile | similar => cases kind
    | some person =>
      obtain ⟨plain, free, named⟩ := ids person rfl
      obtain ⟨fingerprint, size, cursor, rfl⟩ := CacheKey.isPageOf_of_selects plainRoot plain free
        named split.owner asked encoded selected
      exact .inr rfl
  · intro covers
    cases key with
    | page owner fingerprint size cursor =>
      exact CacheKey.selects_page plainRoot (fun person same => (ids person same).plain) covers
        asked encoded
    | interestVector | follows | blocks | seen | topics | profile | similar => exact covers.elim

theorem selects_lists_iff {given : Option Text} {pattern : String}
    (ids : ∀ person, given = some person → person.IsId)
    (asked : (CacheKey.similarPattern root given).toString? = some pattern) :
    Glob.selects pattern written = true ↔ (similar given).Covers key := by
  constructor
  · intro selected
    cases given with
    | none =>
      have kind := (CacheKey.body_of_selects plainRoot asked encoded selected).1
      cases key with
      | similar => exact .inl rfl
      | interestVector | follows | blocks | seen | topics | profile | page => cases kind
    | some person =>
      -- Without separators in the name, only one way remains to take the key apart.
      obtain ⟨plain, free, named⟩ := ids person rfl
      obtain ⟨post, limit, rfl⟩ := CacheKey.isListFor_of_selects plainRoot plain free named
        split.owner split.post asked encoded selected
      exact .inr rfl
  · intro covers
    cases key with
    | similar post owner limit =>
      exact CacheKey.selects_similar plainRoot (fun person same => (ids person same).plain)
        covers asked encoded
    | interestVector | follows | blocks | seen | topics | profile | page => exact covers.elim

theorem selector?_iff (parted : deletion.IsParted)
    (selector : deletion.selector? root = some gone) :
    gone written = true ↔ deletion.Covers key := by
  cases deletion with
  | keys dropped =>
    obtain ⟨strings, all, rfl⟩ := Option.map_eq_some_iff.1 selector
    rw [contains_written all encoded, List.mem_map]
    constructor
    · rintro ⟨other, member, same⟩
      obtain ⟨noPage, noList⟩ := parted other member
      exact CacheKey.text_inj_of_single noPage noList same ▸ member
    · exact fun member => ⟨key, member, rfl⟩
  | pages given =>
    obtain ⟨pattern, asked, rfl⟩ := Option.map_eq_some_iff.1 selector
    exact selects_pages_iff plainRoot split encoded parted asked
  | similar given =>
    obtain ⟨pattern, asked, rfl⟩ := Option.map_eq_some_iff.1 selector
    exact selects_lists_iff plainRoot split encoded parted asked

theorem clears_iff {deletions : List Deletion} (parted : ∀ deletion ∈ deletions, deletion.IsParted)
    (whole : (deletions.all fun deletion => (deletion.selector? root).isSome) = true) :
    clears root deletions written = true ↔ ∃ deletion ∈ deletions, deletion.Covers key := by
  induction deletions with
  | nil => simp [clears]
  | cons deletion rest ih =>
    rw [List.all_cons, Bool.and_eq_true] at whole
    obtain ⟨gone, selector⟩ := Option.isSome_iff_exists.1 whole.1
    have first :=
      selector?_iff plainRoot split encoded (parted deletion List.mem_cons_self) selector
    have later := ih (fun other member => parted other (List.mem_cons_of_mem _ member)) whole.2
    rw [clears, selector, List.exists_mem_cons_iff, ← first, ← later]
    exact Bool.or_eq_true_iff

end Deletion

namespace Deletion

variable {person : Text} {key : CacheKey}

theorem covers_keys {dropped : List CacheKey} : (keys dropped).Covers key ↔ key ∈ dropped := .rfl

theorem covers_pages : (pages (some person)).Covers key ↔ key.IsPageOf person := by
  cases key <;> simp [Covers, CacheKey.IsPageOf, eq_comm]

theorem covers_lists : (similar (some person)).Covers key ↔ key.IsListFor person := by
  cases key <;> simp [Covers, CacheKey.IsListFor, eq_comm]

theorem covers_every_page : (pages none).Covers key ↔ key.artifact = .feedPage := by
  cases key <;> simp [Covers, CacheKey.artifact]

theorem covers_every_list : (similar none).Covers key ↔ key.artifact = .similar := by
  cases key <;> simp [Covers, CacheKey.artifact]

end Deletion

namespace Event

variable {event : Event} {key : CacheKey}

def Names (event : Event) (person : Text) : Prop :=
  person = event.actor ∨ event.target = some person

def Stales (event : Event) (key : CacheKey) : Prop :=
  match event.kind with
  | .followChanged =>
    key = .follows event.actor ∨ key.IsPageOf event.actor ∨ key.IsListFor event.actor
  | .blockChanged =>
    ∃ side, event.Names side ∧ (key = .blocks side ∨ key.IsPageOf side ∨ key.IsListFor side)
  | .postCreated => key.IsPageOf event.actor
  | .privacyChanged => key.artifact = .feedPage ∨ key.artifact = .similar
  | .postSaved => key = .topics event.actor ∨ key.IsPageOf event.actor
  | .seenRecorded => key = .seen event.actor ∨ key.IsPageOf event.actor

variable (ids : ∀ person, event.Names person → person.IsId)
include ids

theorem mem_parties_iff {person : Text} : person ∈ event.parties ↔ event.Names person := by
  refine ⟨party_cases, fun names => ?_⟩
  obtain ⟨kind, actor, target, post⟩ := event
  cases target with
  | none => simpa [parties, Names] using names
  | some target =>
    refine mem_parties (names.imp_right fun same => (Option.some.inj same).symm) ?_
    exact (ids person names).named

theorem parted_deletions : ∀ deletion ∈ event.deletions, deletion.IsParted := by
  have actor := ids event.actor (.inl rfl)
  have single {person : Text} (id : person.IsId) {other : Text} (same : some person = some other) :
      other.IsId := Option.some.inj same ▸ id
  unfold deletions
  cases event.kind with
  | blockChanged =>
    intro deletion member
    rcases List.mem_cons.1 member with rfl | member
    · intro key dropped
      obtain ⟨_, _, rfl⟩ := List.mem_map.1 dropped
      exact ⟨nofun, nofun⟩
    · obtain ⟨side, party, member⟩ := List.mem_flatMap.1 member
      have id := ids side (party_cases party)
      rcases List.mem_pair.1 member with rfl | rfl <;> exact fun _ => single id
  | privacyChanged =>
    intro deletion member
    rcases List.mem_pair.1 member with rfl | rfl <;> exact fun _ same => by cases same
  | followChanged | postCreated | postSaved | seenRecorded =>
    simpa [Deletion.IsParted, CacheKey.artifact] using actor

theorem dooms_iff : event.Dooms key ↔ event.Stales key := by
  have sides {person : Text} : person ∈ event.parties ↔ event.Names person := mem_parties_iff ids
  unfold Dooms deletions Stales
  -- Only a block has two sides, and only a change of privacy is about everybody.
  cases event.kind with
  | blockChanged =>
    simp only [List.exists_mem_cons_iff, List.mem_flatMap, Deletion.covers_keys, List.mem_map]
    constructor
    · rintro (⟨side, party, rfl⟩ | ⟨deletion, ⟨side, party, member⟩, covers⟩)
      · exact ⟨side, sides.1 party, .inl rfl⟩
      · refine ⟨side, sides.1 party, .inr ?_⟩
        rcases List.mem_pair.1 member with rfl | rfl
        · exact .inl (Deletion.covers_pages.1 covers)
        · exact .inr (Deletion.covers_lists.1 covers)
    · rintro ⟨side, names, rfl | page | list⟩
      · exact .inl ⟨side, sides.2 names, rfl⟩
      · exact .inr ⟨_, ⟨side, sides.2 names, List.mem_cons_self⟩, Deletion.covers_pages.2 page⟩
      · exact .inr ⟨_, ⟨side, sides.2 names, List.mem_cons_of_mem _ List.mem_cons_self⟩,
          Deletion.covers_lists.2 list⟩
  | privacyChanged =>
    simp [Deletion.covers_every_page, Deletion.covers_every_list]
  | followChanged | postCreated | postSaved | seenRecorded =>
    simp [Deletion.covers_keys, Deletion.covers_pages, Deletion.covers_lists]

end Event

variable [Score R] [Component C R]

/-- The handling of an event takes exactly those values out of the cache that the event makes stale;
every other value stays as it is. It ends well if the root of the keys and the ids that go into keys
have a form in bytes. Otherwise it stops and the cache stays as it is. -/
theorem Service.handleEvent_footprint (service : Service R) (deployment : Deployment C R)
    (event : Event) (on : deployment.cache.isOn = true) (plain : service.root.IsPlain)
    (ids : ∀ person, event.Names person → person.IsId) :
    ((service.root.isWhole = true ∧ ∀ person ∈ event.named, person.isWhole = true) →
      ∃ (keeps : String → Bool) (metrics : Metrics R),
        deployment.perform (service.handleEvent event) = (.ok (), { deployment with
          cache := { deployment.cache with
            entries := deployment.cache.entries.filter fun entry => keeps entry.1 }
          metrics := metrics }) ∧
        ∀ key written, key.IsParted → (key.text service.root).toString? = some written →
          (keeps written = true ↔ ¬ event.Stales key)) ∧
    (¬ (service.root.isWhole = true ∧ ∀ person ∈ event.named, person.isWhole = true) →
      (deployment.perform (service.handleEvent event)).1 = .error (.fault (.broken .unencodable)) ∧
        (deployment.perform (service.handleEvent event)).2.cache = deployment.cache) := by
  obtain ⟨metrics, ended⟩ := deployment.perform_handleEvent service event
  rw [← Event.isWritten_iff, ended]
  constructor
  · intro written
    refine ⟨fun key => !event.clears service.root key, metrics, ?_, ?_⟩
    · rw [if_pos written, Deployment.dropped, CacheStore.dropped, if_pos on]
    · intro key text split encoded
      rw [Bool.not_eq_true', ← Bool.not_eq_true, ← Event.dooms_iff ids]
      exact not_congr
        (Deletion.clears_iff plain split encoded (Event.parted_deletions ids) written)
  · intro unwritten
    have same : (deployment.dropped (event.clears service.root)).cache = deployment.cache :=
      congrArg Deployment.cache (deployment.dropped_of_none
        (Event.clears_of_unwritten (Bool.eq_false_iff.2 unwritten)))
    exact ⟨if_neg unwritten, same⟩

/-- A block takes out the answers to both sides, and leaves the page of a third reader. -/
theorem handleEvent_footprint_of_keptAnswers :
    let service : Service ℚ := .standard "discovery" ⟨0, 0⟩
    let event : Event := ⟨.blockChanged, "ann", some "bob", none⟩
    ∃ after, keptAnswers.perform (service.handleEvent event) = (.ok (), after) ∧
      after.cache.keys = ["discovery:page:eve:default:20:start"] := by
  intro service event
  have ids : ∀ person, event.Names person → person.IsId := by
    rintro person (rfl | same)
    · exact ⟨by decide, by decide, by decide⟩
    · cases same
      exact ⟨by decide, by decide, by decide⟩
  obtain ⟨keeps, metrics, ended, exactly⟩ :=
    (Service.handleEvent_footprint service keptAnswers event rfl (by decide) ids).1 (by decide)
  have page (owner : Text) (free : owner.Lacks ':') :
      CacheKey.IsParted (.page owner "default" 20 none) := ⟨free, nofun⟩
  have list : CacheKey.IsParted (.similar "1" "ann" 20) :=
    ⟨by decide, fun _ _ _ same => by cases same; decide⟩
  have first : keeps "discovery:page:ann:default:20:start" = false :=
    Bool.eq_false_iff.2 fun kept => (exactly _ _ (page "ann" (by decide)) (by decide)).1 kept
      ⟨"ann", .inl rfl, .inr (.inl ⟨_, _, _, rfl⟩)⟩
  have second : keeps "discovery:similar:1:ann:20" = false :=
    Bool.eq_false_iff.2 fun kept => (exactly _ _ list (by decide)).1 kept
      ⟨"ann", .inl rfl, .inr (.inr ⟨_, _, rfl⟩)⟩
  have third : keeps "discovery:page:bob:default:20:start" = false :=
    Bool.eq_false_iff.2 fun kept => (exactly _ _ (page "bob" (by decide)) (by decide)).1 kept
      ⟨"bob", .inr rfl, .inr (.inl ⟨_, _, _, rfl⟩)⟩
  have last : keeps "discovery:page:eve:default:20:start" = true := by
    refine (exactly _ _ (page "eve" (by decide)) (by decide)).2 ?_
    rintro ⟨side, rfl | same, key | ⟨_, _, _, key⟩ | ⟨_, _, key⟩⟩ <;> cases key
    cases same
  refine ⟨_, ended, ?_⟩
  simp [CacheStore.keys, keptAnswers, first, second, third, last]

end PersonalFeed
