import PersonalFeed.Proofs.Coherence.Stores
import PersonalFeed.Proofs.Coherence.Sweeps

/-!
What is dropped is gone. Orders that only drop values bring none into the cache and leave the stores
as they are, whatever becomes of them, and those that sweep some keys leave nothing under them.
-/

set_option autoImplicit false

namespace PersonalFeed

variable {C R α β : Type}

theorem Task.run_bind_ok {σ : Type} {handler : Program.Handler C R σ} {state other : σ}
    {task : Task C R α} {value : α} (ended : task.run.run handler state = (.ok value, other))
    (f : α → Task C R β) :
    (task >>= f).run.run handler state = (f value).run.run handler other := by
  rw [ExceptT.run_bind, Program.run_bind, ended]

def dropping : Contract C R where
  allows
    | .delete _ | .scan _ | .count _ => True
    | _ => False
  admits _ _ := True

namespace Service

theorem encoded_yields (text : Text) :
    (Task.encoded text : Task C R String).Yields dropping fun _ => True := by
  cases written : text.toString? with
  | none =>
    rw [Task.encoded_of_none written]
    exact Task.yields_fail _ _
  | some s =>
    rw [Task.encoded_of_some written]
    exact Task.yields_pure trivial

theorem encodings_yield (keys : List Text) :
    (keys.mapM Task.encoded : Task C R (List String)).Yields dropping fun _ => True := by
  induction keys with
  | nil => exact Task.yields_pure trivial
  | cons key rest ih =>
    rw [List.mapM_cons]
    refine Task.yields_bind (encoded_yields key) fun first _ => ?_
    exact Task.yields_bind ih fun later _ => Task.yields_pure trivial

theorem ask_yields {call : Call C R} (allowed : dropping.allows call) :
    (Task.ask call).Yields dropping fun _ => True :=
  Task.yields_ask allowed fun _ _ => trivial

theorem drop_yields (keys : List Text) :
    (drop keys : Task C R Unit).Yields dropping fun _ => True := by
  refine Task.yields_bind (encodings_yield keys) fun written _ => ?_
  split
  · exact Task.yields_pure trivial
  · exact Task.yields_bind (ask_yields trivial) fun _ _ => Task.yields_pure trivial

theorem dropBatches_yields (batches : List (List String)) :
    (dropBatches batches : Task C R Nat).Yields dropping fun _ => True := by
  induction batches with
  | nil => exact Task.yields_pure trivial
  | cons batch rest ih =>
    refine Task.yields_bind (ask_yields trivial) fun count _ => ?_
    cases count with
    | none => exact Task.yields_pure trivial
    | some count => exact Task.yields_bind ih fun _ _ => Task.yields_pure trivial

theorem dropMatching_yields (pattern : Text) :
    (dropMatching pattern : Task C R Nat).Yields dropping fun _ => True := by
  refine Task.yields_bind (encoded_yields pattern) fun written _ => ?_
  refine Task.yields_bind (ask_yields trivial) fun keys _ => ?_
  cases keys with
  | none => exact Task.yields_pure trivial
  | some keys => exact dropBatches_yields _

theorem applyDeletion_yields (service : Service R) (deletion : Deletion) :
    (service.applyDeletion deletion : Task C R Unit).Yields dropping fun _ => True := by
  cases deletion with
  | keys dropped => exact drop_yields _
  | pages given => exact Task.yields_bind (dropMatching_yields _) fun _ _ => Task.yields_pure trivial
  | similar given =>
    exact Task.yields_bind (dropMatching_yields _) fun _ _ => Task.yields_pure trivial

theorem applyDeletions_yield (service : Service R) (deletions : List Deletion) :
    (deletions.forM service.applyDeletion : Task C R Unit).Yields dropping fun _ => True := by
  induction deletions with
  | nil => exact Task.yields_pure trivial
  | cons deletion rest ih => exact Task.yields_bind (applyDeletion_yields service deletion) fun _ _ => ih

theorem handleEvent_yields (service : Service R) (event : Event) :
    (service.handleEvent event : Task C R Unit).Yields dropping fun _ => True :=
  Task.yields_bind (applyDeletions_yield service _) fun _ _ => ask_yields trivial

end Service

namespace Deployment

structure Shrinks (deployment other : Deployment C R) : Prop where
  same : deployment.SameStores other
  rules : other.rules = deployment.rules
  on : other.cache.isOn = deployment.cache.isOn
  entries : other.cache.entries ⊆ deployment.cache.entries

variable {deployment other later : Deployment C R}

theorem Shrinks.refl (deployment : Deployment C R) : deployment.Shrinks deployment :=
  ⟨⟨rfl, rfl, rfl, rfl⟩, rfl, rfl, List.Subset.refl _⟩

theorem Shrinks.trans (first : deployment.Shrinks other) (second : other.Shrinks later) :
    deployment.Shrinks later where
  same := first.same.trans second.same
  rules := second.rules.trans first.rules
  on := second.on.trans first.on
  entries := List.Subset.trans second.entries first.entries

theorem shrinks_delete (deployment : Deployment C R) (keys : List String) :
    deployment.Shrinks { deployment with cache := (deployment.cache.delete keys).2 } where
  same := ⟨rfl, rfl, rfl, rfl⟩
  rules := rfl
  on := by
    unfold CacheStore.delete
    split <;> rfl
  entries := CacheStore.delete_entries _ _

section

variable [Score R] [Component C R] {service : Service R}

theorem Shrinks.isCoherent {doomed : CacheKey → Prop} (shrinks : deployment.Shrinks other)
    (coherent : deployment.IsCoherent service doomed) : other.IsCoherent service doomed :=
  coherent.goesOn shrinks.same (shrinks.rules.trans coherent.quiet)
    (shrinks.on.trans coherent.on) (CacheStore.holds_of_subset coherent.cache shrinks.entries)

theorem keptBy_dropping (start : Deployment C R) :
    (dropping : Contract C R).KeptBy reply start.Shrinks := by
  intro call deployment shrinks allowed
  cases call with
  | delete keys => exact ⟨trivial, shrinks.trans (shrinks_delete deployment keys)⟩
  | scan pattern => exact ⟨trivial, shrinks⟩
  | count count =>
    exact ⟨trivial, shrinks.trans ⟨⟨rfl, rfl, rfl, rfl⟩, rfl, rfl, List.Subset.refl _⟩⟩
  | query | search | retrieve | index | openIndex | read | write => exact allowed.elim

/-- Whatever becomes of it, a task that only drops values brings none into the cache. -/
theorem shrinks_of_dropping {task : Task C R α}
    (drops : task.Yields dropping fun _ => True) (deployment : Deployment C R) :
    deployment.Shrinks (deployment.perform task).2 :=
  (Program.meets_run (keptBy_dropping deployment) drops deployment (.refl _)).2

theorem perform_bind_ok {task : Task C R α} {value : α}
    (ended : deployment.perform task = (.ok value, other)) (f : α → Task C R β) :
    deployment.perform (task >>= f) = other.perform (f value) :=
  Task.run_bind_ok ended f

theorem perform_bind_error {task : Task C R α} {stop : Stop R}
    (ended : deployment.perform task = (.error stop, other)) (f : α → Task C R β) :
    deployment.perform (task >>= f) = (.error stop, other) := by
  unfold perform run at *
  rw [ExceptT.run_bind, Program.run_bind, ended]
  rfl

def Drops (deployment : Deployment C R) (task : Task C R α) (gone : String → Prop) : Prop :=
  ∃ value other, deployment.perform task = (.ok value, other) ∧ deployment.Shrinks other ∧
    ∀ entry ∈ other.cache.entries, ¬ gone entry.1

/-- One call of a program that sweeps. Nothing else becomes of what was left of some entries. -/
theorem sweeps_reply {call : Call C R} {next : call.Reply → Program C R α} {left : String → Prop}
    {Q : α → (String → Prop) → Prop} {stale : String × CacheEntry R → Prop}
    (sweeps : (Program.ask call next).Sweeps left Q) (on : deployment.cache.isOn = true)
    (under : ∀ entry ∈ deployment.cache.entries, stale entry → left entry.1) :
    (next (reply call deployment).1).Sweeps (call.leaves left (reply call deployment).1) Q ∧
      deployment.Shrinks (reply call deployment).2 ∧
      ∀ entry ∈ (reply call deployment).2.cache.entries, stale entry →
        call.leaves left (reply call deployment).1 entry.1 := by
  -- Only a deletion and a scan say something about what is left.
  cases call with
  | delete keys =>
    have deleted : deployment.cache.delete keys =
        (some (deployment.cache.entries.countP fun entry => keys.contains entry.1),
          { deployment.cache with
            entries := deployment.cache.entries.filter fun entry => !keys.contains entry.1 }) := by
      rw [CacheStore.delete, if_pos on]
    refine ⟨?_, shrinks_delete deployment keys, fun entry member old => ?_⟩
    · rw [reply, deleted]
      exact sweeps _
    · rw [reply, deleted] at member
      obtain ⟨present, kept⟩ := List.mem_filter.1 member
      exact ⟨under entry present old, by simpa using kept⟩
  | scan pattern =>
    have scanned : deployment.cache.scan pattern =
        some (deployment.cache.keys.filter (Glob.selects pattern)) := if_pos on
    refine ⟨?_, .refl _, fun entry member old => ?_⟩
    · rw [reply, scanned]
      exact sweeps _
    · rw [reply, scanned]
      exact ⟨under entry member old, fun selected =>
        List.mem_filter.2 ⟨List.mem_map_of_mem member, selected⟩⟩
  | count count =>
    exact ⟨sweeps, ⟨⟨rfl, rfl, rfl, rfl⟩, rfl, rfl, List.Subset.refl _⟩, under⟩
  | query | search | retrieve | index | openIndex | read | write => exact sweeps.elim

theorem sweeps_run {program : Program C R α} {left : String → Prop}
    {Q : α → (String → Prop) → Prop} (sweeps : program.Sweeps left Q)
    (on : deployment.cache.isOn = true)
    (under : ∀ entry ∈ deployment.cache.entries, left entry.1) :
    ∃ after : String → Prop, Q (deployment.run program).1 after ∧
      deployment.Shrinks (deployment.run program).2 ∧
      ∀ entry ∈ (deployment.run program).2.cache.entries, after entry.1 := by
  induction program generalizing deployment left with
  | done value => exact ⟨left, sweeps, .refl _, under⟩
  | ask call next ih =>
    have stale : ∀ entry ∈ deployment.cache.entries, True → left entry.1 :=
      fun entry member _ => under entry member
    obtain ⟨later, shrinks, kept⟩ := sweeps_reply sweeps on stale
    obtain ⟨last, ended, shrinks', kept'⟩ :=
      ih _ later (shrinks.on.trans on) fun entry member => kept entry member trivial
    exact ⟨last, ended, shrinks.trans shrinks', kept'⟩

theorem drops_of_sweeps {task : Task C R α} {gone : String → Prop} (sweeps : task.Sweeps gone)
    (on : deployment.cache.isOn = true) : deployment.Drops task gone := by
  obtain ⟨after, ⟨⟨value, ended⟩, fewer⟩, shrinks, kept⟩ :=
    sweeps_run (sweeps fun _ => True) on fun _ _ => trivial
  exact ⟨value, (deployment.perform task).2, Prod.ext ended rfl, shrinks,
    fun entry member => (fewer entry.1 (kept entry member)).2⟩

end

end Deployment

end PersonalFeed
