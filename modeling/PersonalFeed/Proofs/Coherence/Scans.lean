import PersonalFeed.Proofs.Cache.Decoding
import PersonalFeed.Proofs.Coherence.Redelivery
import PersonalFeed.Proofs.Exposure.Outages

/-!
Deletions by a pattern, whatever the scan for it reports. Keys may come in any order and more than
once, so one may be deleted by an early batch and asked for again by a later one.
-/

set_option autoImplicit false

namespace PersonalFeed

variable {C R α : Type}

namespace CacheStore

variable {store : CacheStore R}

/-! ### Keys -/

theorem keys_assign {κ : Type} [DecidableEq κ] (key : κ) (value : α) (entries : List (κ × α)) :
    (assign key value entries).map Prod.fst =
      if key ∈ entries.map Prod.fst then entries.map Prod.fst
      else entries.map Prod.fst ++ [key] := by
  induction entries with
  | nil => rfl
  | cons head rest ih =>
    obtain ⟨other, old⟩ := head
    rw [assign]
    split
    · rename_i same
      simp [same]
    · rename_i apart
      rw [List.map_cons, List.map_cons, ih]
      by_cases later : key ∈ rest.map Prod.fst
      · simp [later]
      · simp [later, Ne.symm apart]

theorem nodup_keys_insert (distinct : store.keys.Nodup) (key : String) (entry : CacheEntry R) :
    (store.insert key entry).keys.Nodup := by
  have keys : (store.insert key entry).keys =
      if key ∈ store.keys then store.keys else store.keys ++ [key] := keys_assign key entry _
  rw [keys]
  split
  · exact distinct
  · exact distinct.append (List.nodup_singleton key) (by simpa using ‹_›)

theorem nodup_keys_write (distinct : store.keys.Nodup) (key : Text) (value : Json R)
    (lifetime : Int) : (store.write key value lifetime).keys.Nodup := by
  unfold write
  split
  · split
    · exact nodup_keys_insert distinct _ _
    · exact distinct
  · exact distinct

theorem nodup_keys_delete (distinct : store.keys.Nodup) (keys : List String) :
    (store.delete keys).2.keys.Nodup := by
  unfold delete
  split
  · exact distinct.sublist (List.filter_sublist.map _)
  · exact distinct

end CacheStore

variable [Score R] [Component C R]

namespace Deployment

variable {deployment : Deployment C R}

theorem nodup_keys_reply (distinct : deployment.cache.keys.Nodup) (call : Call C R) :
    (reply call deployment).2.cache.keys.Nodup := by
  have quiet {other : Deployment C R} (same : other.cache = deployment.cache) :
      other.cache.keys.Nodup := same ▸ distinct
  cases call with
  | write key value lifetime => exact CacheStore.nodup_keys_write distinct key value lifetime
  | delete keys => exact CacheStore.nodup_keys_delete distinct keys
  | query | search | retrieve | index | openIndex | read | scan | count =>
    exact quiet (cache_reply (by simp) (by simp) deployment)

theorem nodup_keys_run (distinct : deployment.cache.keys.Nodup) (program : Program C R α) :
    (deployment.run program).2.cache.keys.Nodup := by
  induction program generalizing deployment with
  | done value => exact distinct
  | ask call next ih => exact ih _ (nodup_keys_reply distinct call)

/-! ### Scans -/

def replyScanning (found : List String) : Program.Handler C R (Deployment C R)
  | .scan _, deployment => (some found, deployment)
  | call, deployment => reply call deployment

end Deployment

namespace Service

open Deployment

variable {deployment : Deployment C R}

/-- Whatever a scan reports for a pattern, in any order and however often, the keys that match it
are gone in the end, everything else is as it was, and as many are counted as there were. A pattern
without a form in bytes stops the deletion before it asks for anything. -/
theorem dropMatching_exactly (on : deployment.cache.isOn = true)
    (distinct : deployment.cache.keys.Nodup) (pattern : Text) (found : List String) :
    (pattern.toString? = none →
      (dropMatching pattern).run.run (replyScanning found) deployment =
        (.error (.fault (.broken .unencodable)), deployment)) ∧
    ∀ written, pattern.toString? = some written → deployment.cache.Enumerates written found →
      ∃ cache : CacheStore R,
        (dropMatching pattern).run.run (replyScanning found) deployment =
          (.ok found.eraseDups.length, { deployment with cache := cache }) ∧
        found.eraseDups.Perm (deployment.cache.keys.filter (Glob.selects written)) ∧
        (∀ key ∈ cache.keys, Glob.selects written key = false) ∧
        (∀ key, Glob.selects written key = false →
          cache.entry? key = deployment.cache.entry? key) := by
  refine ⟨fun unwritten => ?_, fun written encoded enumerates => ?_⟩
  · rw [dropMatching, Task.encoded_of_none unwritten]
    rfl
  -- Neither list has a key twice, and both have the keys that match.
  have counted : found.eraseDups.Perm (deployment.cache.keys.filter (Glob.selects written)) := by
    refine (List.perm_ext_iff_of_nodup (nodup_eraseDups found) (distinct.filter _)).2 fun key => ?_
    rw [List.mem_eraseDups, enumerates, List.mem_filter]
  refine ⟨deployment.cache.dropped (Glob.selects written), ?_, counted, fun key member => ?_,
    fun key apart => ?_⟩
  · rw [counted.length_eq, ← List.countP_eq_length_filter, ← Text.ofString_of_toString? encoded]
    exact run_dropMatching rfl (fun _ _ => rfl) on enumerates
  · rw [CacheStore.keys, CacheStore.dropped, if_pos on] at member
    obtain ⟨entry, stays, rfl⟩ := List.mem_map.1 member
    simpa using (List.mem_filter.1 stays).2
  · rw [CacheStore.entry?_dropped on, apart, if_neg Bool.false_ne_true]

/-- Three pages go although the page of one reader is reported twice, and a list stays. -/
theorem dropMatching_exactly_of_keptAnswers :
    let pages := ["discovery:page:eve:default:20:start", "discovery:page:ann:default:20:start",
      "discovery:page:bob:default:20:start", "discovery:page:ann:default:20:start"]
    keptAnswers.cache.keys.Nodup ∧ keptAnswers.cache.Enumerates "discovery:page:*" pages ∧
      ∃ cache : CacheStore ℚ,
        (dropMatching "discovery:page:*").run.run (replyScanning pages) keptAnswers =
          (.ok 3, { keptAnswers with cache := cache }) ∧
        (∀ key ∈ cache.keys, Glob.selects "discovery:page:*" key = false) ∧
        cache.entry? "discovery:similar:1:ann:20" =
          keptAnswers.cache.entry? "discovery:similar:1:ann:20" := by
  intro pages
  have distinct : keptAnswers.cache.keys.Nodup := by decide
  have matching : keptAnswers.cache.keys.filter (Glob.selects "discovery:page:*") =
      ["discovery:page:ann:default:20:start", "discovery:page:bob:default:20:start",
        "discovery:page:eve:default:20:start"] := by decide +kernel
  have enumerates : keptAnswers.cache.Enumerates "discovery:page:*" pages := by
    intro key
    rw [← List.mem_filter, matching]
    simp only [pages, List.mem_cons, List.not_mem_nil, or_false]
    tauto
  obtain ⟨cache, ended, -, gone, kept⟩ :=
    (dropMatching_exactly rfl distinct "discovery:page:*" pages).2 _ rfl enumerates
  exact ⟨distinct, enumerates, cache, ended, gone, kept _ (by decide +kernel)⟩

end Service

end PersonalFeed
