import PersonalFeed.Proofs.Cache.Lookups
import PersonalFeed.Proofs.Cache.Patterns
import PersonalFeed.Service.Invalidation

/-!
What deletions sweep away. A deletion covers the keys that it is made for. Whatever comes into the
cache while it is carried out, no value from before is left under these keys, as long as the cache
can be reached.
-/

set_option autoImplicit false

namespace PersonalFeed

def Deletion.Covers : Deletion → CacheKey → Prop
  | .keys dropped, key => key ∈ dropped
  | .pages given, .page owner _ _ _ => given = none ∨ given = some owner
  | .similar given, .similar _ owner _ => given = none ∨ given = some owner
  | _, _ => False

def Text.IsName (text : Text) : Prop := text.IsPlain ∧ text.isWhole = true

instance (text : Text) : Decidable text.IsName :=
  inferInstanceAs (Decidable (text.IsPlain ∧ text.isWhole = true))

def Deletion.IsNamed : Deletion → Prop
  | .keys dropped => ∀ key ∈ dropped, ∀ part ∈ key.parts, part.isWhole = true
  | .pages given | .similar given => ∀ name, given = some name → name.IsName

def Deletion.IsWhole : Deletion → Prop
  | .keys dropped => ∀ key ∈ dropped, ∀ part ∈ key.parts, part.isWhole = true
  | .pages given | .similar given => ∀ name, given = some name → name.isWhole = true

/-- The keys that a deletion gets at: the name in a pattern has to stand for itself. -/
def Deletion.Reaches : Deletion → CacheKey → Prop
  | .keys dropped, key => key ∈ dropped
  | .pages given, .page owner _ _ _ => given = none ∨ given = some owner ∧ owner.IsPlain
  | .similar given, .similar _ owner _ => given = none ∨ given = some owner ∧ owner.IsPlain
  | _, _ => False

namespace Deletion

variable {deletion : Deletion} {key : CacheKey}

theorem IsNamed.isWhole (named : deletion.IsNamed) : deletion.IsWhole := by
  cases deletion with
  | keys => exact named
  | pages | similar => exact fun name given => (named name given).2

theorem isPlain_of_reached {given : Option Text} {owner : Text}
    (reached : given = none ∨ given = some owner ∧ owner.IsPlain) :
    ∀ name, given = some name → name.IsPlain := by
  rintro name rfl
  rcases reached with none | ⟨same, plain⟩
  · cases none
  · cases same
    exact plain

theorem IsNamed.reaches (named : deletion.IsNamed) (covers : deletion.Covers key) :
    deletion.Reaches key := by
  cases deletion with
  | keys => exact covers
  | pages given =>
    cases key with
    | page => exact covers.imp_right fun same => ⟨same, (named _ same).1⟩
    | interestVector | follows | blocks | seen | topics | profile | similar => exact covers.elim
  | similar given =>
    cases key with
    | similar => exact covers.imp_right fun same => ⟨same, (named _ same).1⟩
    | interestVector | follows | blocks | seen | topics | profile | page => exact covers.elim

end Deletion

theorem CacheKey.isWhole_patternPart {given : Option Text}
    (whole : ∀ name, given = some name → name.isWhole = true) :
    (patternPart given).isWhole = true := by
  cases given with
  | none => decide
  | some name =>
    rcases @patternPart_some name with any | same
    · rw [any]
      decide
    · rw [same]
      exact whole name rfl

variable {C R α β : Type}

theorem mem_batches {keys : List String} {key : String} (member : key ∈ keys) :
    ∃ batch ∈ batches keys, key ∈ batch := by
  -- The fuel is the number of keys, and each batch takes at least one of them.
  have all (fuel : Nat) (keys : List String) (enough : keys.length ≤ fuel) (member : key ∈ keys) :
      ∃ batch ∈ batchesWithin fuel keys, key ∈ batch := by
    induction fuel generalizing keys with
    | zero =>
      rw [List.length_eq_zero_iff.1 (Nat.le_zero.1 enough)] at member
      cases member
    | succ fuel ih =>
      have some : keys.isEmpty = false := by
        rw [List.isEmpty_eq_false_iff]
        exact List.ne_nil_of_mem member
      rw [batchesWithin, if_neg (by simp [some])]
      rw [← List.take_append_drop batchSize keys, List.mem_append] at member
      rcases member with first | later
      · exact ⟨_, List.mem_cons_self, first⟩
      · have shorter : (keys.drop batchSize).length ≤ fuel := by
          rw [List.length_drop, batchSize]
          omega
        obtain ⟨batch, inside, member⟩ := ih _ shorter later
        exact ⟨batch, List.mem_cons_of_mem _ inside, member⟩
  exact all _ keys (Nat.le_refl _) member

/-- Under which keys there may be a value from before after a call, out of those where there may be
one before it. A value that a scan misses is not there. -/
def Call.leaves (left : String → Prop) : (call : Call C R) → call.Reply → String → Prop
  | .delete keys, _ => fun key => left key ∧ key ∉ keys
  | .scan pattern, some keys => fun key =>
    left key ∧ (Glob.selects pattern key = true → key ∈ keys)
  | _, _ => left

theorem Call.left_of_leaves {left : String → Prop} {call : Call C R} {reply : call.Reply}
    {key : String} (stays : call.leaves left reply key) : left key := by
  cases call with
  | delete => exact stays.1
  | scan pattern =>
    cases reply with
    | none => exact stays
    | some keys => exact stays.1
  | query | search | retrieve | index | openIndex | read | write | count => exact stays

/-- A program gives orders to drop values only, and whatever the replies of a cache that can be
reached, it ends with a value and keys that meet a condition. -/
def Program.Sweeps (left : String → Prop) (Q : α → (String → Prop) → Prop) : Program C R α → Prop
  | .done value => Q value left
  | .ask (.delete keys) next => ∀ count : Nat,
    (next (some count)).Sweeps (Call.leaves (R := R) (C := C) left (.delete keys) (some count)) Q
  | .ask (.scan pattern) next => ∀ keys : List String,
    (next (some keys)).Sweeps (Call.leaves (R := R) (C := C) left (.scan pattern) (some keys)) Q
  | .ask (.count _) next => (next ()).Sweeps left Q
  | .ask _ _ => False

namespace Program

variable {left : String → Prop} {Q : α → (String → Prop) → Prop} {Q' : β → (String → Prop) → Prop}

theorem sweeps_mono {P : α → (String → Prop) → Prop} {program : Program C R α}
    (sweeps : program.Sweeps left P) (implies : ∀ value after, P value after → Q value after) :
    program.Sweeps left Q := by
  induction program generalizing left with
  | done value => exact implies value left sweeps
  | ask call next ih =>
    cases call with
    | delete keys => exact fun count => ih _ (sweeps count)
    | scan pattern => exact fun keys => ih _ (sweeps keys)
    | count count => exact ih _ sweeps
    | query | search | retrieve | index | openIndex | read | write => exact sweeps.elim

theorem sweeps_bind {program : Program C R α} {f : α → Program C R β}
    (first : program.Sweeps left Q)
    (next : ∀ value after, Q value after → (f value).Sweeps after Q') :
    (program >>= f).Sweeps left Q' := by
  induction program generalizing left with
  | done value => exact next value left first
  | ask call rest ih =>
    cases call with
    | delete keys => exact fun count => ih _ (first count)
    | scan pattern => exact fun keys => ih _ (first keys)
    | count count => exact ih _ first
    | query | search | retrieve | index | openIndex | read | write => exact first.elim

end Program

namespace Task

def Sweeps (task : Task C R α) (gone : String → Prop) : Prop :=
  ∀ left, task.run.Sweeps left fun result after =>
    (∃ value, result = .ok value) ∧ ∀ key, after key → left key ∧ ¬ gone key

variable {gone later : String → Prop}

theorem sweeps_mono {task : Task C R α} {fewer : String → Prop} (sweeps : task.Sweeps gone)
    (implies : ∀ key, fewer key → gone key) : task.Sweeps fewer :=
  fun left => Program.sweeps_mono (sweeps left) fun _ _ ⟨ended, kept⟩ =>
    ⟨ended, fun key stays => ⟨(kept key stays).1, fun swept =>
      (kept key stays).2 (implies key swept)⟩⟩

theorem sweeps_pure (value : α) : (pure value : Task C R α).Sweeps fun _ => False :=
  fun _ => ⟨⟨value, rfl⟩, fun _ stays => ⟨stays, id⟩⟩

theorem sweeps_count (count : Count) : (Task.count count : Task C R Unit).Sweeps fun _ => False :=
  fun _ => ⟨⟨(), rfl⟩, fun _ stays => ⟨stays, id⟩⟩

theorem sweeps_bind {task : Task C R α} {f : α → Task C R β} (first : task.Sweeps gone)
    (next : ∀ value, (f value).Sweeps later) :
    (task >>= f).Sweeps fun key => gone key ∨ later key := by
  intro left
  rw [ExceptT.run_bind]
  refine Program.sweeps_bind (first left) ?_
  rintro _ after ⟨⟨value, rfl⟩, kept⟩
  refine Program.sweeps_mono (next value after) fun result last ⟨ended, kept'⟩ =>
    ⟨ended, fun key stays => ?_⟩
  obtain ⟨stays, missed⟩ := kept' key stays
  obtain ⟨stays, missed'⟩ := kept key stays
  exact ⟨stays, fun swept => swept.elim missed' missed⟩

theorem sweeps_map {task : Task C R α} {f : α → β} (first : task.Sweeps gone) :
    (task >>= fun value => pure (f value)).Sweeps gone :=
  sweeps_mono (sweeps_bind first fun value => sweeps_pure (f value)) fun _ => .inl

theorem opens_bind {task : Task C R α} {call : Call C R}
    {next : call.Reply → Program C R (Except (Stop R) α)} (opens : task.run = .ask call next)
    (f : α → Task C R β) : ∃ later, (task >>= f).run = .ask call later := by
  rw [ExceptT.run_bind, opens]
  exact ⟨_, rfl⟩

theorem sweeps_delete {keys : List String} {f : Option Nat → Task C R β}
    (next : ∀ count, (f (some count)).Sweeps later) :
    (ask (.delete keys) >>= f).Sweeps fun key => key ∈ keys ∨ later key := by
  intro left count
  refine Program.sweeps_mono (next count _) fun result after ⟨ended, kept⟩ =>
    ⟨ended, fun key stays => ?_⟩
  obtain ⟨⟨stays, missed⟩, missed'⟩ := kept key stays
  exact ⟨stays, fun swept => swept.elim missed missed'⟩

/-- To sweep away all keys of a scan is to sweep away all that are selected. -/
theorem sweeps_scan {pattern : String} {f : Option (List String) → Task C R β}
    (next : ∀ keys : List String, (f (some keys)).Sweeps fun key => key ∈ keys) :
    (ask (.scan pattern) >>= f).Sweeps fun key => Glob.selects pattern key = true := by
  intro left keys
  -- A selected key that the scan does not report held nothing at that time, so what is under it
  -- later is not from before.
  refine Program.sweeps_mono (next keys _) fun result after ⟨ended, kept⟩ =>
    ⟨ended, fun key stays => ?_⟩
  obtain ⟨⟨stays, found⟩, missed⟩ := kept key stays
  exact ⟨stays, fun selected => missed (found selected)⟩

end Task

namespace Service

open PersonalFeed.Task

theorem dropBatches_sweeps (batches : List (List String)) :
    (dropBatches batches : Task C R Nat).Sweeps fun key => ∃ batch ∈ batches, key ∈ batch := by
  induction batches with
  | nil =>
    exact sweeps_mono (sweeps_pure 0) fun key ⟨_, member, _⟩ => absurd member List.not_mem_nil
  | cons batch rest ih =>
    refine sweeps_mono (sweeps_delete fun count => sweeps_map ih) ?_
    rintro key ⟨other, inside, member⟩
    rcases List.mem_cons.1 inside with rfl | inside
    · exact .inl member
    · exact .inr ⟨other, inside, member⟩

theorem dropMatching_sweeps {pattern : Text} {s : String} (written : pattern.toString? = some s) :
    (dropMatching pattern : Task C R Nat).Sweeps fun key => Glob.selects s key = true := by
  rw [dropMatching, Task.encoded_of_some written, pure_bind]
  exact sweeps_scan fun keys => sweeps_mono (dropBatches_sweeps _) fun _ => mem_batches

theorem encodings_eq {keys : List Text} (whole : ∀ key ∈ keys, key.isWhole = true) :
    ∃ written, (keys.mapM Task.encoded : Task C R (List String)) = pure written ∧
      ∀ key ∈ keys, ∀ s, key.toString? = some s → s ∈ written := by
  induction keys with
  | nil => exact ⟨[], rfl, fun key member => absurd member List.not_mem_nil⟩
  | cons key rest ih =>
    obtain ⟨later, ended, each⟩ := ih fun other member => whole other (List.mem_cons_of_mem _ member)
    obtain ⟨s, written⟩ := Text.exists_of_isWhole (whole key List.mem_cons_self)
    refine ⟨s :: later, ?_, ?_⟩
    · rw [List.mapM_cons, Task.encoded_of_some written, pure_bind, ended, pure_bind]
    · intro other member t found
      rcases List.mem_cons.1 member with rfl | member
      · rw [written] at found
        cases found
        exact List.mem_cons_self
      · exact List.mem_cons_of_mem _ (each other member t found)

theorem drop_sweeps {keys : List Text} (whole : ∀ key ∈ keys, key.isWhole = true) :
    (drop keys : Task C R Unit).Sweeps fun written =>
      ∃ key ∈ keys, key.toString? = some written := by
  obtain ⟨written, ended, each⟩ := encodings_eq (C := C) (R := R) whole
  rw [drop, ended, pure_bind]
  split
  · rename_i none
    refine sweeps_mono (sweeps_pure ()) ?_
    rintro s ⟨key, member, found⟩
    have present := each key member s found
    rw [List.isEmpty_iff.1 none] at present
    cases present
  · refine sweeps_mono (sweeps_delete fun _ => sweeps_pure ()) ?_
    rintro s ⟨key, member, found⟩
    exact .inl (each key member s found)

theorem drop_opens {keys : List Text} (whole : ∀ key ∈ keys, key.isWhole = true)
    (nonempty : keys ≠ []) :
    ∃ written next, (drop keys : Task C R Unit).run = .ask (.delete written) next ∧
      ∀ key ∈ keys, ∀ s, key.toString? = some s → s ∈ written := by
  obtain ⟨written, ended, each⟩ := encodings_eq (C := C) (R := R) whole
  refine ⟨written, ?_⟩
  rw [drop, ended, pure_bind, if_neg]
  · exact ⟨_, rfl, each⟩
  · rw [Bool.not_eq_true, List.isEmpty_eq_false_iff]
    rintro rfl
    obtain ⟨key, member⟩ := List.exists_mem_of_ne_nil keys nonempty
    obtain ⟨s, encoded⟩ := Text.exists_of_isWhole (whole key member)
    cases each key member s encoded

section

variable {service : Service R} (plain : service.root.IsName)

include plain

theorem dropPages_sweeps {given : Option Text}
    (encoded : ∀ name, given = some name → name.isWhole = true) :
    (service.dropPages given : Task C R Nat).Sweeps fun written =>
      ∃ key, (Deletion.pages given).Reaches key ∧
        (key.text service.root).toString? = some written := by
  have whole : (CacheKey.pagesPattern service.root given).isWhole = true := by
    rw [CacheKey.pagesPattern, CacheKey.isWhole_join, plain.2]
    simp [CacheKey.isWhole_patternPart encoded]
  obtain ⟨pattern, asked⟩ := Text.exists_of_isWhole whole
  refine sweeps_mono (dropMatching_sweeps asked) ?_
  rintro written ⟨key, reached, found⟩
  cases key with
  | page owner fingerprint size cursor =>
    exact CacheKey.selects_page plain.1 (Deletion.isPlain_of_reached reached)
      (reached.imp_right And.left) asked found
  | interestVector | follows | blocks | seen | topics | profile | similar => exact reached.elim

theorem dropSimilar_sweeps {given : Option Text}
    (encoded : ∀ name, given = some name → name.isWhole = true) :
    (service.dropSimilar given : Task C R Nat).Sweeps fun written =>
      ∃ key, (Deletion.similar given).Reaches key ∧
        (key.text service.root).toString? = some written := by
  have whole : (CacheKey.similarPattern service.root given).isWhole = true := by
    rw [CacheKey.similarPattern, CacheKey.isWhole_join, plain.2]
    simp [CacheKey.isWhole_patternPart encoded]
  obtain ⟨pattern, asked⟩ := Text.exists_of_isWhole whole
  refine sweeps_mono (dropMatching_sweeps asked) ?_
  rintro written ⟨key, reached, found⟩
  cases key with
  | similar post owner limit =>
    exact CacheKey.selects_similar plain.1 (Deletion.isPlain_of_reached reached)
      (reached.imp_right And.left) asked found
  | interestVector | follows | blocks | seen | topics | profile | page => exact reached.elim

theorem applyDeletion_sweeps {deletion : Deletion} (whole : deletion.IsWhole) :
    (service.applyDeletion deletion : Task C R Unit).Sweeps fun written =>
      ∃ key, deletion.Reaches key ∧ (key.text service.root).toString? = some written := by
  cases deletion with
  | keys dropped =>
    refine sweeps_mono (drop_sweeps ?_) ?_
    · intro text member
      obtain ⟨key, inside, rfl⟩ := List.mem_map.1 member
      rw [Service.key, CacheKey.text, CacheKey.isWhole_join, plain.2, Bool.true_and,
        List.all_eq_true]
      exact whole key inside
    · rintro written ⟨key, reached, found⟩
      exact ⟨_, List.mem_map_of_mem reached, found⟩
  | pages given => exact sweeps_map (dropPages_sweeps plain whole)
  | similar given => exact sweeps_map (dropSimilar_sweeps plain whole)

theorem applyDeletions_sweep {deletions : List Deletion}
    (whole : ∀ deletion ∈ deletions, deletion.IsWhole) :
    (deletions.forM service.applyDeletion : Task C R Unit).Sweeps fun written =>
      ∃ deletion ∈ deletions, ∃ key, deletion.Reaches key ∧
        (key.text service.root).toString? = some written := by
  induction deletions with
  | nil =>
    refine sweeps_mono (sweeps_pure PUnit.unit) ?_
    rintro written ⟨deletion, member, _⟩
    cases member
  | cons deletion rest ih =>
    refine sweeps_mono (sweeps_bind
      (applyDeletion_sweeps plain (whole deletion List.mem_cons_self))
      fun _ => ih fun later member => whole later (List.mem_cons_of_mem _ member)) ?_
    rintro written ⟨other, member, found⟩
    rcases List.mem_cons.1 member with rfl | member
    · exact .inl found
    · exact .inr ⟨other, member, found⟩

end

end Service

end PersonalFeed
