import PersonalFeed.Proofs.Cache.Contents
import PersonalFeed.Proofs.Program.Contract
import PersonalFeed.Service.Context

/-!
How requests use their stores. A request asks some queries and changes nothing but the cache. A
contract may leave it at that, and say of each key what may be found and stored under it; by terms
all cached values are good for their keys, and the other stores reply as they say.
-/

set_option autoImplicit false

namespace PersonalFeed

def Query.isReading {R : Type} : Query R → Bool
  | .setInterestVector _ _ | .recordSeen _ _ _ | .purgeSeen _ => false
  | _ => true

theorem Query.tables_of_reading {R : Type} [Scalar R] {tables after : Tables R} {query : Query R}
    {answer : query.Answer} (reading : query.isReading = true)
    (ran : query.run tables = .ok (answer, after)) : after = tables := by
  unfold run at ran
  split at ran
  · cases ran
  · cases query with
    | setInterestVector | recordSeen | purgeSeen => cases reading
    | interestVector | profile | following | blocked | authors | content | recentSaves
    | interestSources | seen =>
      cases ran
      rfl

/-- What requests rely on: the root of the keys, the queries that may be asked, what cached values
are good for, and the replies of the other stores. -/
structure Terms (C R : Type) where
  root : Text
  asks : Query R → Prop
  good : CacheKey → Json R → Prop
  replies : (call : Call C R) → call.Reply → Prop

def Terms.contract {C R : Type} (terms : Terms C R) : Contract C R where
  allows
    | .query query => terms.asks query
    | .write key value _ =>
      ∃ name : CacheKey, name.IsProper ∧ key = name.text terms.root ∧ terms.good name value
    | .index _ _ _ | .openIndex | .delete _ | .scan _ => False
    | .search _ _ _ | .retrieve _ | .read _ | .count _ => True
  admits
    | .read key, reply => ∀ entry, reply = .found entry → ∀ name : CacheKey, name.IsProper →
        (name.text terms.root).toString? = some key →
          ∃ value, entry = .document value ∧ terms.good name value
    | call, reply => terms.replies call reply

/-- A contract lets requests look things up, search and count as they like. -/
structure Contract.Serves {C R : Type} (contract : Contract C R) : Prop where
  query : ∀ query : Query R, query.isReading = true → contract.allows (.query query)
  search : ∀ vector limit exclusion, contract.allows (.search vector limit exclusion)
  retrieve : ∀ ids, contract.allows (.retrieve ids)
  read : ∀ key, contract.allows (.read key)
  count : ∀ count, contract.allows (.count count)

def Contract.Finds {C R : Type} [Numeral R] (contract : Contract C R) (root : Text)
    (key : CacheKey) (value : Json R) : Prop :=
  ∃ written entry, (key.text root).toString? = some written ∧
    contract.admits (.read written) (.found entry) ∧ entry.decode = .ok value

def Contract.Takes {C R : Type} (contract : Contract C R) (root : Text) (key : CacheKey)
    (value : Json R) : Prop :=
  ∀ lifetime, contract.allows (.write (key.text root) value lifetime)

namespace Terms

variable {C R : Type} {terms : Terms C R} {value : Json R}

theorem serves (reading : ∀ query : Query R, query.isReading = true → terms.asks query) :
    terms.contract.Serves :=
  ⟨reading, fun _ _ _ => trivial, fun _ => trivial, fun _ => trivial, fun _ => trivial⟩

theorem good_of_finds [Numeral R] (key : CacheKey) (proper : key.IsProper)
    (found : terms.contract.Finds terms.root key value) : terms.good key value := by
  obtain ⟨written, entry, encoded, admitted, decoded⟩ := found
  obtain ⟨document, rfl, good⟩ := admitted entry rfl key proper encoded
  cases decoded
  exact good

theorem takes (key : CacheKey) (proper : key.IsProper) (good : terms.good key value) :
    terms.contract.Takes terms.root key value :=
  fun _ => ⟨key, proper, rfl, good⟩

end Terms

namespace Task

variable {C R α β : Type}

theorem encoded_of_some {text : Text} {s : String} (written : text.toString? = some s) :
    (encoded text : Task C R String) = pure s := by
  rw [encoded, written]

theorem encoded_of_none {text : Text} (unwritten : text.toString? = none) :
    (encoded text : Task C R String) = fail (.broken .unencodable) := by
  rw [encoded, unwritten]

theorem run_ask_bind (call : Call C R) (f : call.Reply → Task C R α) :
    (ask call >>= f).run = .ask call fun reply => (f reply).run := rfl

end Task

namespace Service

variable {C R : Type} {terms : Terms C R} {service : Service R}

theorem counts (count : Count) : terms.contract.allows (.count count) := trivial

/-- A look-up breaks down on a key without a form in bytes, or misses, or finds a good value. -/
theorem cached_meets [Numeral R] (rooted : service.root = terms.root) (key : CacheKey)
    (proper : key.IsProper) {P : Except (Stop R) (Option (Json R)) → Prop}
    (broken : (service.key key).toString? = none → P (.error (.fault (.broken .unencodable))))
    (miss : (service.key key).toString? ≠ none → P (.ok none))
    (hit : ∀ value, (service.key key).toString? ≠ none → terms.good key value →
      P (.ok (some value))) :
    (service.cached key : Task C R _).run.Meets terms.contract P := by
  unfold cached lookUp
  cases written : (service.key key).toString? with
  | none =>
    rw [Task.encoded_of_none written]
    exact broken written
  | some s =>
    have encoded : (service.key key).toString? ≠ none := by simp [written]
    rw [Task.encoded_of_some written, pure_bind, Task.run_ask_bind]
    refine ⟨trivial, fun reply admitted => ?_⟩
    cases reply with
    | off => exact ⟨counts _, fun _ _ => miss encoded⟩
    | absent => exact ⟨counts _, fun _ _ => miss encoded⟩
    | found entry =>
      rw [Service.key, rooted] at written
      -- The contract speaks of documents under keys, so an entry is never a text here.
      obtain ⟨value, document, good⟩ := admitted entry rfl key proper written
      subst document
      refine ⟨counts _, fun _ _ => ?_⟩
      -- A document of nothing at all is a miss.
      cases value with
      | null => exact miss encoded
      | bool | int | real | string | array | object => exact hit _ encoded good

theorem keep_meets (rooted : service.root = terms.root) (key : CacheKey) (proper : key.IsProper)
    {value : Json R} (good : terms.good key value) {P : Except (Stop R) Unit → Prop}
    (broken : (service.key key).toString? = none → P (.error (.fault (.broken .unencodable))))
    (done : (service.key key).toString? ≠ none → P (.ok ())) :
    (service.keep key value : Task C R Unit).run.Meets terms.contract P := by
  unfold keep store
  refine ⟨⟨key, proper, by rw [Service.key, rooted], good⟩, fun _ _ => ?_⟩
  cases written : (service.key key).toString? with
  | none =>
    rw [Task.encoded_of_none written]
    exact broken written
  | some s =>
    rw [Task.encoded_of_some written]
    exact done (by simp [written])

section

variable {contract : Contract C R} (serves : contract.Serves) {key : CacheKey}

include serves

theorem count_yields (count : Count) :
    (Task.count count : Task C R Unit).Yields contract fun _ => True :=
  Task.yields_ask (serves.count count) fun _ _ => trivial

theorem cached_yields [Numeral R] (key : CacheKey) :
    (service.cached key : Task C R _).Yields contract fun stored =>
      ∀ value, stored = some value → contract.Finds service.root key value := by
  have counted {result : LookupResult} {found : Option (Json R)} {P : Option (Json R) → Prop}
      (holds : P found) : Task.Yields contract
        (do service.countLookup (service.key key) result; return found : Task C R _) P :=
    Task.yields_bind (count_yields serves _) fun _ _ => Task.yields_pure holds
  have miss : ∀ value, none = some value → contract.Finds service.root key value :=
    fun _ found => by cases found
  -- Of all the ways a look-up ends, only one that decodes a value finds something.
  unfold cached lookUp
  cases written : (service.key key).toString? with
  | none =>
    rw [Task.encoded_of_none written]
    exact Task.yields_fail _ _
  | some s =>
    rw [Task.encoded_of_some written, pure_bind]
    refine Task.yields_bind (Task.yields_ask (serves.read s) fun reply admitted => admitted)
      fun reply admitted => ?_
    cases reply with
    | off => exact counted miss
    | absent => exact counted miss
    | found entry =>
      dsimp only
      split
      · split
        · exact Task.yields_fail _ _
        · exact counted miss
      · rename_i value decoded
        have found : contract.Finds service.root key value :=
          ⟨s, entry, written, admitted, decoded⟩
        cases value with
        | null => exact counted miss
        | bool | int | real | string | array | object =>
          exact counted fun other same => Option.some.inj same ▸ found

omit serves in
theorem keep_yields {value : Json R} (taken : contract.Takes service.root key value) :
    (service.keep key value : Task C R Unit).Yields contract fun _ => True := by
  refine Task.yields_bind (P := fun _ => True) (Task.yields_ask (taken _) fun _ _ => trivial)
    fun _ _ => ?_
  cases written : (service.key key).toString? with
  | none =>
    rw [Task.encoded_of_none written]
    exact Task.yields_fail _ _
  | some s =>
    rw [Task.encoded_of_some written]
    exact Task.yields_pure trivial

/-- A set of ids is one that may be found, or the store loads it and it may be stored. -/
theorem loadIds_yields [Numeral R] {load : Task C R (List Text)} {P : IdSet → Prop}
    (hit : ∀ value set, contract.Finds service.root key value → IdSet.ofJson value = .ok set →
      P set)
    (miss : load.Yields contract fun ids =>
      contract.Takes service.root key (.ofTexts (sortedIds ids)) ∧ P (.ids (sortedIds ids))) :
    (service.loadIds key load).Yields contract P := by
  unfold loadIds
  refine Task.yields_bind (cached_yields serves key) fun found known => ?_
  cases found with
  | some value => exact Task.yields_ofBreakdown fun set read => hit value set (known value rfl) read
  | none =>
    refine Task.yields_bind miss fun ids holds => ?_
    exact Task.yields_bind (keep_yields holds.1) fun _ _ => Task.yields_pure holds.2

end

end Service

end PersonalFeed
