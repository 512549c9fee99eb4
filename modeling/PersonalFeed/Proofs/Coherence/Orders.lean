import PersonalFeed.Proofs.Coherence.Staleness
import PersonalFeed.Service.Impressions
import PersonalFeed.Service.Interest
import PersonalFeed.Service.Retention

/-!
Orders to the service that change the tables. Each drops what its own change makes stale, so a
coherent deployment stays coherent.
-/

set_option autoImplicit false

namespace PersonalFeed

variable {C R α β : Type}

def looking : Contract C R where
  allows
    | .query query => query.isReading = true
    | .retrieve _ => True
    | _ => False
  admits _ _ := True

theorem CacheStore.entries_of_broken {root : Text} {good : CacheKey → Json R → Prop}
    {cache : CacheStore R} (holds : cache.Holds root good) (broken : root.isWhole = false) :
    cache.entries = [] := by
  refine List.eq_nil_iff_forall_not_mem.2 fun entry member => ?_
  obtain ⟨key, value, proper, written, document, valid⟩ := holds entry member
  have whole : (key.text root).isWhole = true := by
    rw [← Text.toString?_isSome, written]
    rfl
  rw [CacheKey.text, CacheKey.isWhole_join, broken] at whole
  cases whole

variable [Score R] [Component C R]

namespace Deployment

variable {deployment : Deployment C R} {service : Service R} {doomed touched : CacheKey → Prop}

theorem IsCoherent.drop {task : Task C R α}
    (coherent : deployment.IsCoherent service fun key => doomed key ∨ touched key)
    (plain : service.root.IsPlain) (drops : task.Yields dropping fun _ => True)
    (gone : service.root.IsName → task.Sweeps fun written =>
      ∃ key, touched key ∧ (key.text service.root).toString? = some written) :
    (deployment.perform task).2.IsCoherent service doomed := by
  have shrinks := shrinks_of_dropping drops deployment
  have after := shrinks.isCoherent coherent
  refine ⟨after.quiet, after.on, after.dated, ?_⟩
  -- Under a root without a form in bytes nothing can have been cached.
  cases whole : service.root.isWhole with
  | false =>
    exact CacheStore.holds_of_empty (CacheStore.entries_of_broken after.cache whole)
  | true =>
    obtain ⟨value, other, ended, -, left⟩ := drops_of_sweeps (gone ⟨plain, whole⟩) coherent.on
    rw [ended] at after ⊢
    intro entry member
    obtain ⟨key, value, proper, written, document, valid⟩ := after.cache entry member
    refine ⟨key, value, proper, written, document, ?_⟩
    rcases valid with right | stale | stale
    · exact .inl right
    · exact .inr stale
    · exact absurd ⟨key, stale, written⟩ (left entry member)

theorem perform_query (quiet : deployment.rules = []) (query : Query R) :
    deployment.perform (Task.query query) =
      match query.run deployment.tables with
      | .ok (answer, tables) => (.ok answer, { deployment with tables := tables })
      | .error cause => (.error (.fault (.broken cause)), deployment) := by
  have asked : deployment.perform (Task.query query) =
      (reply (.query query) deployment).2.perform
        (Task.answer Task.databaseName (reply (.query query) deployment).1) := rfl
  rw [asked, reply, guarded_of_rules _ _ quiet]
  cases query.run deployment.tables <;> rfl

theorem perform_bounded {task : Task C R α} {name : String} {result : Except (Stop R) α}
    {other : Deployment C R} (ended : deployment.perform task = (result, other))
    (replied : result ≠ .error .silence) :
    deployment.perform (Task.bounded name task) = (result, other) := by
  unfold perform run at *
  rw [Task.bounded, ExceptT.run_mk, Program.run_bind, ended]
  match result with
  | .ok value => rfl
  | .error .silence => exact absurd rfl replied
  | .error (.fault cause) => rfl

theorem perform_order (quiet : deployment.rules = []) (name : String) (query : Query R) :
    deployment.perform (Task.bounded name (Task.query query)) =
      match query.run deployment.tables with
      | .ok (answer, tables) => (.ok answer, { deployment with tables := tables })
      | .error cause => (.error (.fault (.broken cause)), deployment) := by
  have ended := perform_query quiet query
  cases ran : query.run deployment.tables <;>
    · rw [ran] at ended
      exact perform_bounded ended fun same => by cases same

theorem perform_looking {task : Task C R α} (looks : task.Yields looking fun _ => True)
    (quiet : deployment.rules = []) :
    ∃ result, deployment.perform task = (result, deployment) := by
  have kept : (looking : Contract C R).KeptBy reply (· = deployment) := by
    rintro call state rfl allowed
    cases call with
    | query query => exact ⟨trivial, by rw [reply_query allowed quiet]⟩
    | retrieve ids => exact ⟨trivial, by rw [reply_retrieve ids quiet]⟩
    | search | index | openIndex | read | write | delete | scan | count => exact allowed.elim
  exact ⟨_, Prod.ext rfl (Program.meets_run kept looks deployment rfl).2⟩

/-- A task that only looks may come before one that leaves a deployment coherent. -/
theorem IsCoherent.bind_looking {task : Task C R α} {f : α → Task C R β}
    (coherent : deployment.IsCoherent service doomed) (looks : task.Yields looking fun _ => True)
    (next : ∀ value, (deployment.perform (f value)).2.IsCoherent service doomed) :
    (deployment.perform (task >>= f)).2.IsCoherent service doomed := by
  obtain ⟨result, ended⟩ := perform_looking looks coherent.quiet
  cases result with
  | error stop =>
    rw [perform_bind_error ended]
    exact coherent
  | ok value =>
    rw [perform_bind_ok ended]
    exact next value

end Deployment

namespace Service

open Deployment

variable {deployment : Deployment C R} {service : Service R} {doomed : CacheKey → Prop}
variable {identity : Text}

omit [Score R] [Component C R] in
theorem dropOwn_yields (keys : List Text) (value : α) :
    (do drop keys; let _ ← service.dropPages (some identity); return value :
      Task C R α).Yields dropping fun _ => True := by
  refine Task.yields_bind (drop_yields keys) fun _ _ => ?_
  exact Task.yields_bind (dropMatching_yields _) fun _ _ => Task.yields_pure trivial

def Own (set : CacheKey) (identity : Text) (key : CacheKey) : Prop :=
  key = set ∨ key.IsPageOf identity

omit [Score R] [Component C R] in
theorem dropOwn_sweeps (plain : service.root.IsName) (named : identity.IsName) (set : CacheKey)
    (parts : set.parts = [identity]) (value : α) :
    (do drop [service.key set]; let _ ← service.dropPages (some identity); return value :
      Task C R α).Sweeps fun written => ∃ key, Own set identity key ∧
        (key.text service.root).toString? = some written := by
  have keys : (Deletion.keys [set]).IsWhole := by
    intro key member part inside
    rw [List.mem_singleton.1 member, parts, List.mem_singleton] at inside
    rw [inside]
    exact named.2
  have person : (Deletion.pages (some identity)).IsNamed := by
    rintro name same
    cases same
    exact named
  refine Task.sweeps_mono (Task.sweeps_bind (applyDeletion_sweeps plain keys) fun _ =>
    Task.sweeps_bind (dropPages_sweeps plain person.isWhole) fun _ => Task.sweeps_pure value) ?_
  rintro written ⟨key, rfl | page, found⟩
  · exact .inl ⟨key, List.mem_singleton_self _, found⟩
  · exact .inr (.inl ⟨key, person.reaches (Deletion.covers_page page (.inr rfl)), found⟩)

/-- After an order of a person, what was made of the old answers is dropped. -/
theorem isCoherent_order {query : Query R} (coherent : deployment.IsCoherent service doomed)
    (plain : service.root.IsPlain) (person : identity.IsPlain) (set : CacheKey)
    (parts : set.parts = [identity]) (value : α)
    (sound : ∀ answer after, query.run deployment.tables = .ok (answer, after) →
      identity.isWhole = true ∧ after.IsDated ∧
      ∀ key, ¬ Own set identity key → ∀ asked, service.dependsOn key asked →
        deployment.tables.Agree after asked) :
    (deployment.perform (do
      let _ ← Task.bounded Task.databaseName (Task.query query)
      drop [service.key set]
      let _ ← service.dropPages (some identity)
      return value)).2.IsCoherent service doomed := by
  have ended := perform_order coherent.quiet Task.databaseName query
  -- An order that fails changes nothing. Between one that is carried out and the deletions that
  -- follow the values of the person are doomed.
  cases ran : query.run deployment.tables with
  | error cause =>
    rw [ran] at ended
    rw [perform_bind_error ended]
    exact coherent
  | ok pair =>
    obtain ⟨answer, after⟩ := pair
    obtain ⟨whole, dated, agree⟩ := sound answer after ran
    rw [ran] at ended
    rw [perform_bind_ok ended]
    have changed := coherent.withTables dated agree
    exact changed.drop plain (dropOwn_yields [service.key set] value) fun root =>
      dropOwn_sweeps root ⟨person, whole⟩ set parts value

theorem isCoherent_recordImpressions (coherent : deployment.IsCoherent service doomed)
    (plain : service.root.IsPlain) (person : identity.IsPlain)
    (now : service.now.inCalendar = true) (posts : List (Json R)) :
    (deployment.perform (service.recordImpressions identity posts)).2.IsCoherent service
      doomed := by
  rw [recordImpressions]
  cases checkImpressions identity posts with
  | error cause => exact coherent
  | ok ids =>
    refine isCoherent_order coherent plain person (.seen identity) rfl ids.length ?_
    intro answer after ran
    obtain ⟨stored, answered⟩ := Tables.ok_of_run ran
    obtain ⟨tables, recorded, same⟩ := ok_of_map answered
    cases same
    refine ⟨isWhole_of_columnFlaw? stored identity List.mem_cons_self,
      Tables.isDated_recordSeen recorded coherent.dated now, fun key other asked depends => ?_⟩
    refine Tables.agree_recordSeen recorded (isReading_of_dependsOn depends) ?_
    rintro since rfl
    exact other (dependents_of_seen depends)

omit [Score R] [Component C R] in
theorem query_looks {query : Query R} (reading : query.isReading = true) :
    (Task.query query : Task C R _).Yields looking fun _ => True :=
  Task.yields_query reading fun _ _ => trivial

theorem fetchPosts_looks (ids : List Text) :
    (fetchPosts ids : Task C R (List (Post C))).Yields looking fun _ => True := by
  unfold fetchPosts
  split
  · exact Task.yields_pure trivial
  · exact Task.yields_bind (query_looks rfl) fun _ _ => Task.yields_ofBreakdown fun _ _ => trivial

omit [Score R] [Component C R] in
theorem fetchVectors_looks (ids : List Text) :
    (fetchVectors ids : Task C R (List (Text × Embedding C))).Yields looking fun _ => True := by
  unfold fetchVectors
  split
  · exact Task.yields_pure trivial
  · refine Task.yields_bind (P := fun _ => True) (Task.yields_ask trivial fun _ _ => trivial)
      fun reply _ => ?_
    refine Task.yields_bind (P := fun _ => True) (Task.yields_answer fun _ _ => trivial)
      fun hits _ => ?_
    refine Task.yields_bind (P := fun _ => True) (Task.yields_ofBreakdown fun _ _ => trivial)
      fun neighbours _ => ?_
    exact Task.yields_pure trivial

theorem sourceVectors_looks (sources : List Text) :
    (sourceVectors sources : Task C R (List (Tensor C))).Yields looking fun _ => True := by
  refine Task.yields_bind (Task.yields_bounded (fetchVectors_looks sources)) fun indexed _ => ?_
  dsimp only
  split
  · exact Task.yields_pure trivial
  · exact Task.yields_bind (Task.yields_bounded (fetchPosts_looks _)) fun _ _ =>
      Task.yields_pure trivial

theorem isCoherent_rebuildInterest (coherent : deployment.IsCoherent service doomed)
    (plain : service.root.IsPlain) (person : identity.IsPlain) :
    (deployment.perform (service.rebuildInterest (C := C) identity)).2.IsCoherent service
      doomed := by
  rw [rebuildInterest]
  split
  · exact coherent
  · refine coherent.bind_looking (Task.yields_bounded (query_looks rfl)) fun sources => ?_
    refine coherent.bind_looking (sourceVectors_looks sources) fun vectors => ?_
    split
    · exact coherent
    · cases interestOf (R := R) vectors with
      | error cause => exact coherent
      | ok interest =>
        refine isCoherent_order coherent plain person (.interestVector identity) rfl
          (Rebuild.mk identity true vectors.length) ?_
        -- The order was carried out, so the id has a byte form, and what depended on the old vector
        -- is dropped by name.
        intro answer after ran
        obtain ⟨stored, answered⟩ := Tables.ok_of_run ran
        cases answered
        refine ⟨isWhole_of_columnFlaw? stored identity List.mem_cons_self,
          ⟨coherent.dated.posts, coherent.dated.seen⟩, fun key other asked depends => ?_⟩
        refine Tables.agree_setInterest _ (isReading_of_dependsOn depends) ?_
        rintro rfl
        exact other (dependents_of_interestVector depends)

omit [Score R] [Component C R] in
theorem start_of_dependsOn {key : CacheKey} {since : Timestamp}
    (depends : service.dependsOn key (.seen identity since)) :
    retentionStart service.now service.config.ranking.seenRetentionDays = .ok since := by
  cases key with
  | seen | page => exact depends.2
  | interestVector | follows | blocks | topics | profile | similar => cases depends

/-- Marks are purged coherently: those that are asked for are kept. -/
theorem isCoherent_purgeSeen (coherent : deployment.IsCoherent service doomed) :
    (deployment.perform (purgeSeen service.now
      service.config.ranking.seenRetentionDays)).2.IsCoherent service doomed := by
  rw [purgeSeen]
  cases started : retentionStart service.now service.config.ranking.seenRetentionDays with
  | error cause => exact coherent
  | ok before =>
    have purged : (deployment.tables.purgeSeen before).2.IsDated :=
      ⟨coherent.dated.posts, fun mark member =>
        coherent.dated.seen mark (List.mem_filter.1 member).1⟩
    have changed : ({ deployment with tables := (deployment.tables.purgeSeen before).2 } :
        Deployment C R).IsCoherent service fun key => doomed key ∨ False := by
      refine coherent.withTables purged fun key _ query asked => ?_
      -- A purge and a request by the same clock have the same window, so no mark that is asked for
      -- goes.
      refine Tables.agree_purgeSeen (isReading_of_dependsOn asked) ?_
      rintro identity since rfl
      cases started.symm.trans (start_of_dependsOn asked)
      exact Int.le_refl _
    have ended := perform_query coherent.quiet (.purgeSeen before)
    have after := changed.mono fun key gone => gone.resolve_right id
    change (deployment.perform (Task.query (.purgeSeen before) >>= fun purged =>
      Task.count (.purged purged) >>= fun _ => pure purged)).2.IsCoherent service doomed
    rw [perform_bind_ok ended]
    exact after.goesOn ⟨rfl, rfl, rfl, rfl⟩ after.quiet after.on after.cache

end Service

end PersonalFeed
