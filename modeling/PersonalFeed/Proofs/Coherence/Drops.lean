import PersonalFeed.Proofs.Coherence.Orders

/-!
What orders to drop values leave in the cache. While it can be reached, all entries stay as they are
but for those under the keys that are dropped; nothing else changes in a deployment.
-/

set_option autoImplicit false

namespace PersonalFeed

variable {C R α : Type}

theorem mem_of_mem_batches {keys batch : List String} {key : String}
    (inside : batch ∈ batches keys) (member : key ∈ batch) : key ∈ keys := by
  have all (fuel : Nat) (keys : List String) (inside : batch ∈ batchesWithin fuel keys) :
      key ∈ keys := by
    induction fuel generalizing keys with
    | zero => cases inside
    | succ fuel ih =>
      rw [batchesWithin] at inside
      split at inside
      · cases inside
      · rcases List.mem_cons.1 inside with rfl | inside
        · exact List.mem_of_mem_take member
        · exact List.mem_of_mem_drop (ih _ inside)
  exact all _ keys inside

/-- A key is in some batch exactly if it is one of those that are cut in batches. -/
theorem any_batches (keys : List String) (key : String) :
    (batches keys).any (·.contains key) = keys.contains key := by
  rw [Bool.eq_iff_iff, List.any_eq_true, List.contains_iff_mem]
  constructor
  · rintro ⟨batch, inside, found⟩
    exact mem_of_mem_batches inside (List.contains_iff_mem.1 found)
  · intro member
    obtain ⟨batch, inside, found⟩ := mem_batches member
    exact ⟨batch, inside, List.contains_iff_mem.2 found⟩

theorem countP_split (first later : α → Bool) (items : List α) :
    items.countP first + (items.filter fun item => !first item).countP later =
      items.countP fun item => first item || later item := by
  induction items with
  | nil => rfl
  | cons item rest ih =>
    cases taken : first item <;> cases left : later item <;>
      simp [taken, left] <;> omega

namespace CacheStore

def dropped (store : CacheStore R) (gone : String → Bool) : CacheStore R :=
  if store.isOn then { store with entries := store.entries.filter fun entry => !gone entry.1 }
  else store

variable {store : CacheStore R} {gone later : String → Bool}

theorem isOn_dropped : (store.dropped gone).isOn = store.isOn := by
  unfold dropped
  split <;> rfl

theorem dropped_of_off (off : store.isOn = false) : store.dropped gone = store := by
  rw [dropped, if_neg (by simp [off])]

theorem delete_eq (keys : List String) : (store.delete keys).2 = store.dropped keys.contains := by
  unfold delete dropped
  split <;> rfl

theorem dropped_dropped :
    (store.dropped gone).dropped later = store.dropped fun key => gone key || later key := by
  cases on : store.isOn with
  | false => rw [dropped_of_off on, dropped_of_off on, dropped_of_off on]
  | true =>
    simp only [dropped, on, if_true, List.filter_filter, Bool.not_or, Bool.and_comm]

theorem dropped_nothing : store.dropped (fun _ => false) = store := by
  unfold dropped
  split <;> simp

theorem exists_filter (store : CacheStore R) (gone : String → Bool) :
    ∃ keeps, store.dropped gone = { store with entries := store.entries.filter keeps } := by
  unfold dropped
  split
  · exact ⟨_, rfl⟩
  · exact ⟨fun _ => true, by simp⟩

theorem dropped_congr (same : ∀ entry ∈ store.entries, gone entry.1 = later entry.1) :
    store.dropped gone = store.dropped later := by
  unfold dropped
  rw [List.filter_congr fun entry member => by rw [same entry member]]

/-- What a scan may report for a pattern: each key that matches it, at least once and in any order,
and no other one. -/
def Enumerates (store : CacheStore R) (pattern : String) (found : List String) : Prop :=
  ∀ key, key ∈ found ↔ key ∈ store.keys ∧ Glob.selects pattern key = true

theorem enumerates_scan (on : store.isOn = true) (pattern : String) :
    ∃ found, store.scan pattern = some found ∧ store.Enumerates pattern found :=
  ⟨_, if_pos on, fun _ => List.mem_filter⟩

theorem entry?_dropped (on : store.isOn = true) (key : String) :
    CacheStore.entry? (store.dropped gone) key =
      if gone key then none else store.entry? key := by
  rw [dropped, if_pos on, entry?, entry?, List.find?_filter]
  cases away : gone key with
  | true =>
    rw [if_pos rfl, Option.map_eq_none_iff, List.find?_eq_none]
    intro entry _ found
    obtain ⟨stays, same⟩ : gone entry.1 = false ∧ entry.1 = key := by simpa using found
    rw [same, away] at stays
    cases stays
  | false =>
    rw [if_neg Bool.false_ne_true]
    have tests : (fun entry : String × CacheEntry R =>
        decide ((!gone entry.1) = true ∧ decide (entry.1 = key) = true)) =
          fun entry => decide (entry.1 = key) := by
      funext entry
      by_cases same : entry.1 = key
      · simp [same, away]
      · simp [same]
    rw [tests]

end CacheStore

variable [Score R] [Component C R]

namespace Deployment

def dropped (deployment : Deployment C R) (gone : String → Bool) : Deployment C R :=
  { deployment with cache := deployment.cache.dropped gone }

variable {deployment : Deployment C R} {gone later : String → Bool}

omit [Score R] [Component C R] in
theorem dropped_dropped : (deployment.dropped gone).dropped later =
    deployment.dropped fun key => gone key || later key := by
  rw [dropped, dropped, dropped, CacheStore.dropped_dropped]

open Service

omit [Score R] [Component C R] in
theorem dropped_of_none (deployment : Deployment C R) {gone : String → Bool}
    (none : ∀ key, gone key = false) : deployment.dropped gone = deployment := by
  have same : gone = fun _ => false := funext none
  rw [same, dropped, CacheStore.dropped_nothing]

theorem perform_encodings (deployment : Deployment C R) (keys : List Text) :
    deployment.perform (keys.mapM Task.encoded) =
      match keys.mapM Text.toString? with
      | some written => (.ok written, deployment)
      | none => (.error (.fault (.broken .unencodable)), deployment) := by
  -- All keys are encoded before any of them is deleted.
  induction keys with
  | nil => rfl
  | cons key rest ih =>
    rw [List.mapM_cons, List.mapM_cons]
    cases first : key.toString? with
    | none =>
      rw [Task.encoded_of_none first]
      rfl
    | some written =>
      rw [Task.encoded_of_some first, pure_bind]
      cases later : rest.mapM Text.toString? with
      | none =>
        rw [later] at ih
        exact perform_bind_error ih _
      | some others =>
        rw [later] at ih
        exact perform_bind_ok ih _

def clearing (deployment : Deployment C R) :
    Option (String → Bool) → Except (Stop R) Unit × Deployment C R
  | some gone => (.ok (), deployment.dropped gone)
  | none => (.error (.fault (.broken .unencodable)), deployment)

theorem perform_dropAll (deployment : Deployment C R) (keys : List Text) :
    deployment.perform (drop keys) =
      deployment.clearing ((keys.mapM Text.toString?).map List.contains) := by
  have encoded := perform_encodings deployment keys
  rw [drop]
  cases found : keys.mapM Text.toString? with
  | none =>
    rw [found] at encoded
    exact perform_bind_error encoded _
  | some written =>
    rw [found] at encoded
    rw [perform_bind_ok encoded]
    cases written with
    | nil =>
      -- Without keys nothing is asked of the cache.
      rw [Option.map_some, clearing, dropped_of_none _ (by simp)]
      rfl
    | cons first rest =>
      rw [Option.map_some, clearing, dropped, ← CacheStore.delete_eq]
      rfl

theorem perform_drop {key : Text} {written : String} (encoded : key.toString? = some written) :
    deployment.perform (drop [key]) = (.ok (), deployment.dropped [written].contains) := by
  rw [perform_dropAll]
  simp [encoded, clearing]

/-- Batches are dropped one after another, and each entry is counted once, when it goes. -/
theorem run_dropBatches {handler : Program.Handler C R (Deployment C R)}
    (deletes : ∀ keys other, handler (.delete keys) other = reply (.delete keys) other)
    (on : deployment.cache.isOn = true) (batches : List (List String)) :
    (dropBatches batches).run.run handler deployment =
      (.ok (deployment.cache.entries.countP fun entry => batches.any (·.contains entry.1)),
        deployment.dropped fun key => batches.any (·.contains key)) := by
  -- The induction is on the batches, over what the earlier ones left.
  induction batches generalizing deployment with
  | nil =>
    simp only [List.any_nil, dropped, CacheStore.dropped_nothing, List.countP_false]
    rfl
  | cons batch rest ih =>
    have counted : (deployment.cache.delete batch).1 =
        some (deployment.cache.entries.countP fun entry => batch.contains entry.1) := by
      rw [CacheStore.delete, if_pos on]
    have asked : (Task.ask (.delete batch) : Task C R _).run.run handler deployment =
        (.ok (deployment.cache.delete batch).1, deployment.dropped batch.contains) := by
      rw [dropped, ← CacheStore.delete_eq]
      exact congrArg (fun replied => (Except.ok replied.1, replied.2)) (deletes batch deployment)
    have left : (deployment.dropped batch.contains).cache.entries =
        deployment.cache.entries.filter fun entry => !batch.contains entry.1 := by
      rw [dropped, CacheStore.dropped, if_pos on]
    have ended := @ih (deployment.dropped batch.contains) (CacheStore.isOn_dropped.trans on)
    rw [left, dropped_dropped] at ended
    rw [dropBatches, Task.run_bind_ok asked, counted]
    refine (Task.run_bind_ok ended _).trans ?_
    simp only [List.any_cons, ← countP_split]
    rfl

/-- The keys that a pattern is said to match are dropped, whatever their order and however often
they are named. -/
theorem run_dropMatching {handler : Program.Handler C R (Deployment C R)} {pattern : String}
    {found : List String} (scans : handler (.scan pattern) deployment = (some found, deployment))
    (deletes : ∀ keys other, handler (.delete keys) other = reply (.delete keys) other)
    (on : deployment.cache.isOn = true) (enumerates : deployment.cache.Enumerates pattern found) :
    (dropMatching (Text.ofString pattern)).run.run handler deployment =
      (.ok (deployment.cache.keys.countP (Glob.selects pattern)),
        deployment.dropped (Glob.selects pattern)) := by
  have asked : (Task.ask (.scan pattern) : Task C R _).run.run handler deployment =
      (.ok (some found), deployment) :=
    congrArg (fun replied => (Except.ok replied.1, replied.2)) scans
  -- On the entries that there are, to be found is to match.
  have same : ∀ entry ∈ deployment.cache.entries,
      found.contains entry.1 = Glob.selects pattern entry.1 := by
    intro entry member
    rw [Bool.eq_iff_iff, List.contains_iff_mem, enumerates]
    exact and_iff_right (List.mem_map_of_mem member)
  rw [dropMatching, Task.encoded_of_some (Text.toString?_ofString pattern), pure_bind,
    Task.run_bind_ok asked]
  refine (run_dropBatches deletes on _).trans ?_
  simp only [any_batches]
  rw [dropped, dropped, CacheStore.dropped_congr same, CacheStore.keys, List.countP_map]
  exact congrArg (fun count => (Except.ok count, _))
    (List.countP_congr fun entry member => by rw [same entry member]; rfl)

theorem perform_dropMatching (deployment : Deployment C R) {pattern : Text} {written : String}
    (encoded : pattern.toString? = some written) :
    ∃ count, deployment.perform (dropMatching pattern) =
      (.ok count, deployment.dropped (Glob.selects written)) := by
  obtain rfl := Text.ofString_of_toString? encoded
  have scanned : deployment.perform (Task.ask (.scan written)) =
      (.ok (deployment.cache.scan written), deployment) := rfl
  cases on : deployment.cache.isOn with
  | false =>
    rw [dropMatching, Task.encoded_of_some encoded, pure_bind, perform_bind_ok scanned,
      CacheStore.scan, on, dropped, CacheStore.dropped_of_off on]
    exact ⟨0, rfl⟩
  | true =>
    obtain ⟨found, reported, enumerates⟩ := CacheStore.enumerates_scan on written
    have scans : reply (.scan written) deployment = (some found, deployment) :=
      congrArg (·, deployment) reported
    exact ⟨_, run_dropMatching scans (fun _ _ => rfl) on enumerates⟩

end Deployment

end PersonalFeed
