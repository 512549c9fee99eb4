import PersonalFeed.Cache.Store
import PersonalFeed.Proofs.Cache.Keys

/-!
What a cache holds: documents under proper keys, each as good as a property of keys and values asks.
No two keys are written alike, so what is found under a key was stored for it.
-/

set_option autoImplicit false

namespace PersonalFeed.CacheStore

variable {R : Type}

def IsGood (root : Text) (good : CacheKey → Json R → Prop) (entry : String × CacheEntry R) : Prop :=
  ∃ key value, key.IsProper ∧ (key.text root).toString? = some entry.1 ∧
    entry.2 = .document value ∧ good key value

def Holds (root : Text) (good : CacheKey → Json R → Prop) (cache : CacheStore R) : Prop :=
  ∀ entry ∈ cache.entries, IsGood root good entry

variable {root : Text} {good : CacheKey → Json R → Prop} {cache : CacheStore R}

theorem mem_assign {κ α : Type} [DecidableEq κ] {key : κ} {value : α} {entry : κ × α}
    {entries : List (κ × α)} (member : entry ∈ assign key value entries) :
    entry = (key, value) ∨ entry ∈ entries := by
  induction entries with
  | nil => simpa [assign] using member
  | cons head rest ih =>
    rw [assign] at member
    split at member
    · rcases List.mem_cons.1 member with rfl | member
      · exact .inl rfl
      · exact .inr (List.mem_cons_of_mem _ member)
    · rcases List.mem_cons.1 member with rfl | member
      · exact .inr List.mem_cons_self
      · exact (ih member).imp_right (List.mem_cons_of_mem _)

theorem holds_of_empty (empty : cache.entries = []) : cache.Holds root good := by
  intro entry member
  rw [empty] at member
  cases member

theorem holds_mono {other : CacheKey → Json R → Prop} (holds : cache.Holds root good)
    (implies : ∀ key value, good key value → other key value) : cache.Holds root other := by
  intro entry member
  obtain ⟨key, value, proper, written, document, valid⟩ := holds entry member
  exact ⟨key, value, proper, written, document, implies key value valid⟩

theorem holds_of_subset {other : CacheStore R} (holds : cache.Holds root good)
    (subset : other.entries ⊆ cache.entries) : other.Holds root good :=
  fun entry member => holds entry (subset member)

theorem holds_write (holds : cache.Holds root good) {key : CacheKey} {value : Json R}
    (proper : key.IsProper) (valid : good key value) (lifetime : Int) :
    (cache.write (key.text root) value lifetime).Holds root good := by
  unfold write
  split
  · rename_i written encoded
    split
    · intro entry member
      rcases mem_assign member with rfl | member
      · exact ⟨key, value, proper, encoded, rfl, valid⟩
      · exact holds entry member
    · exact holds
  · exact holds

theorem isOn_write (cache : CacheStore R) (key : Text) (value : Json R) (lifetime : Int) :
    (cache.write key value lifetime).isOn = cache.isOn := by
  unfold write
  split
  · split <;> rfl
  · rfl

theorem delete_entries (cache : CacheStore R) (keys : List String) :
    (cache.delete keys).2.entries ⊆ cache.entries := by
  unfold delete
  split
  · exact List.filter_sublist.subset
  · exact List.Subset.refl _

theorem good_of_read (holds : cache.Holds root good) {key : CacheKey} {written : String}
    {entry : CacheEntry R} (proper : key.IsProper)
    (encoded : (key.text root).toString? = some written) (found : cache.read written = .found entry) :
    ∃ value, entry = .document value ∧ good key value := by
  unfold read at found
  split at found
  · split at found
    · rename_i other present
      cases found
      obtain ⟨pair, first, rfl⟩ := Option.map_eq_some_iff.1 present
      have same : pair.1 = written := by simpa using List.find?_some first
      obtain ⟨name, value, named, encoded', document, valid⟩ :=
        holds pair (List.mem_of_find?_eq_some first)
      have names : name = key := CacheKey.string_inj named proper encoded' (same ▸ encoded)
      exact ⟨value, document, names ▸ valid⟩
    · cases found
  · cases found

section

variable {written : String}

theorem filter_assign {α : Type} {key : String} (differs : key ≠ written) (value : α)
    (entries : List (String × α)) :
    (assign key value entries).filter (·.1 = written) = entries.filter (·.1 = written) := by
  induction entries with
  | nil => simp [assign, differs]
  | cons entry rest ih =>
    rw [assign]
    split
    · rename_i same
      simp [same, differs]
    · simp only [List.filter_cons, ih]

theorem filter_write {key : Text} (differs : key.toString? ≠ some written) (value : Json R)
    (lifetime : Int) :
    (cache.write key value lifetime).entries.filter (·.1 = written) =
      cache.entries.filter (·.1 = written) := by
  unfold write
  split
  · rename_i other encoded
    split
    · exact filter_assign (fun same => differs (encoded.trans (congrArg some same))) _ _
    · rfl
  · rfl

theorem read_congr {other : CacheStore R} (on : other.isOn = cache.isOn)
    (same : other.entries.filter (·.1 = written) = cache.entries.filter (·.1 = written)) :
    other.read written = cache.read written := by
  have entry : other.entry? written = cache.entry? written := by
    unfold entry?
    rw [← List.head?_filter, ← List.head?_filter, same]
  rw [read, read, on, entry]

end

end PersonalFeed.CacheStore
