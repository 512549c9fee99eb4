import PersonalFeed.Proofs.Entries.Shapes

/-!
Tasks that come to one value wherever the stores are the same and look-ups find the same. What a
task stores is under keys of a kind that nothing looks up after it, so the next task finds what the
first one would have found.
-/

set_option autoImplicit false

namespace PersonalFeed

variable {C R α β : Type} [Score R] [Component C R]

namespace Deployment

section

variable {deployment after last : Deployment C R} {task : Task C R α} {value : α}

theorem perform_ask (call : Call C R) (f : call.Reply → Task C R α) :
    deployment.perform (Task.ask call >>= f) =
      (reply call deployment).2.perform (f (reply call deployment).1) := rfl

theorem reply_read (written : String) : reply (.read written) deployment =
    (deployment.cache.read written, deployment) := rfl

theorem perform_attempt (part : Part) (ended : deployment.perform task = (.ok value, after)) :
    deployment.perform (Task.attempt part task) = (.ok (some value), after) := by
  have bounded : deployment.perform (Task.bounded part.name task) = (.ok value, after) :=
    perform_bounded ended fun same => by cases same
  unfold perform run at *
  rw [Task.attempt, ExceptT.run_mk, Program.run_bind, bounded]
  rfl

theorem perform_both {second : Task C R β} {other : β}
    (first : deployment.perform task = (.ok value, after))
    (next : after.perform second = (.ok other, last)) :
    deployment.perform (Task.both task second) = (.ok (value, other), last) := by
  unfold perform run at *
  rw [Task.both, ExceptT.run_mk, Program.run_bind, first]
  dsimp only
  rw [Program.run_bind, next]
  rfl

end

/-- The same stores, of which none fails, and the same to find under the keys of some kinds. -/
structure Agrees (root : Text) (kinds : List Artifact) (deployment other : Deployment C R) :
    Prop where
  stores : deployment.SameStores other
  quiet : other.rules = []
  finds : ∀ key : CacheKey, key.artifact ∈ kinds → ∀ written,
    (key.text root).toString? = some written →
      other.cache.reading written = deployment.cache.reading written

/-- Wherever the values of some kinds are those of a deployment, a task ends with one and the same
value, and the values of some kinds stay. -/
def Settles (root : Text) (deployment : Deployment C R) (before : List Artifact)
    (task : Task C R α) (after : List Artifact) (P : α → Prop) : Prop :=
  ∃ value, P value ∧ ∀ other, deployment.Agrees root before other →
    ∃ later, other.perform task = (.ok value, later) ∧ deployment.Agrees root after later

variable {root : Text} {deployment other : Deployment C R} {kinds before after last : List Artifact}

omit [Component C R] in
theorem Agrees.refl (quiet : deployment.rules = []) : deployment.Agrees root kinds deployment :=
  ⟨⟨rfl, rfl, rfl, rfl⟩, quiet, fun _ _ _ _ => rfl⟩

omit [Component C R] in
theorem agrees_dropped (quiet : deployment.rules = []) :
    deployment.Agrees root kinds (deployment.dropped deployment.cache.isVoid) :=
  ⟨⟨rfl, rfl, rfl, rfl⟩, quiet, fun _ _ _ _ => CacheStore.reading_dropped⟩

omit [Component C R] in
theorem Agrees.fewer (agrees : deployment.Agrees root before other)
    (fewer : after ⊆ before) : deployment.Agrees root after other :=
  ⟨agrees.stores, agrees.quiet, fun key inside => agrees.finds key (fewer inside)⟩

theorem settles_mono {task : Task C R α} {P Q : α → Prop}
    (settles : deployment.Settles root before task after P) (implies : ∀ value, P value → Q value) :
    deployment.Settles root before task after Q := by
  obtain ⟨value, holds, ends⟩ := settles
  exact ⟨value, implies value holds, ends⟩

theorem settles_fewer {task : Task C R α} {P : α → Prop}
    (settles : deployment.Settles root before task after P) (fewer : last ⊆ after) :
    deployment.Settles root before task last P := by
  obtain ⟨value, holds, ends⟩ := settles
  refine ⟨value, holds, fun other agrees => ?_⟩
  obtain ⟨later, ended, still⟩ := ends other agrees
  exact ⟨later, ended, still.fewer fewer⟩

theorem settles_forget {task : Task C R α} {P : α → Prop} (fewer : after ⊆ before)
    (settles : deployment.Settles root after task last P) :
    deployment.Settles root before task last P := by
  obtain ⟨value, holds, ends⟩ := settles
  exact ⟨value, holds, fun other agrees => ends other (agrees.fewer fewer)⟩

theorem settles_pure {value : α} {P : α → Prop} (holds : P value) :
    deployment.Settles root kinds (pure value : Task C R α) kinds P :=
  ⟨value, holds, fun _ agrees => ⟨_, rfl, agrees⟩⟩

theorem settles_bind {task : Task C R α} {f : α → Task C R β} {P : α → Prop} {Q : β → Prop}
    (first : deployment.Settles root before task after P)
    (next : ∀ value, P value → deployment.Settles root after (f value) last Q) :
    deployment.Settles root before (task >>= f) last Q := by
  obtain ⟨value, holds, ends⟩ := first
  obtain ⟨result, found, goesOn⟩ := next value holds
  refine ⟨result, found, fun other agrees => ?_⟩
  obtain ⟨later, ended, still⟩ := ends other agrees
  rw [perform_bind_ok ended]
  exact goesOn later still

/-- A task that comes to a known value leads on to what follows that value. -/
theorem settles_bind_exact {task : Task C R α} {f : α → Task C R β} {value : α} {Q : β → Prop}
    (first : deployment.Settles root before task after (· = value))
    (next : deployment.Settles root after (f value) last Q) :
    deployment.Settles root before (task >>= f) last Q :=
  settles_bind first fun _ same => same ▸ next

theorem settles_attempt (part : Part) {task : Task C R α} {P : α → Prop}
    (settles : deployment.Settles root before task after P) :
    deployment.Settles root before (Task.attempt part task) after
      fun found => ∃ value, found = some value ∧ P value := by
  obtain ⟨value, holds, ends⟩ := settles
  refine ⟨some value, ⟨value, rfl, holds⟩, fun other agrees => ?_⟩
  obtain ⟨later, ended, still⟩ := ends other agrees
  exact ⟨later, perform_attempt part ended, still⟩

theorem settles_both {first : Task C R α} {second : Task C R β} {P : α → Prop} {Q : β → Prop}
    (left : deployment.Settles root before first after P)
    (right : deployment.Settles root after second last Q) :
    deployment.Settles root before (Task.both first second) last
      fun pair => P pair.1 ∧ Q pair.2 := by
  obtain ⟨value, holds, ends⟩ := left
  obtain ⟨result, found, goesOn⟩ := right
  refine ⟨(value, result), ⟨holds, found⟩, fun other agrees => ?_⟩
  obtain ⟨later, ended, still⟩ := ends other agrees
  obtain ⟨last, ended', still'⟩ := goesOn later still
  exact ⟨last, perform_both ended ended', still'⟩

theorem settles_ofExcept {result : Except (Fault R) α} {value : α} {P : α → Prop}
    (ended : result = .ok value) (holds : P value) :
    deployment.Settles root kinds (Task.ofExcept result : Task C R α) kinds P := by
  rw [ended]
  exact settles_pure holds

theorem settles_ofBreakdown {result : Except Breakdown α} {value : α} {P : α → Prop}
    (ended : result = .ok value) (holds : P value) :
    deployment.Settles root kinds (Task.ofBreakdown result : Task C R α) kinds P := by
  rw [ended]
  exact settles_pure holds

theorem settles_ofRefusal {result : Except (Refusal R) α} {value : α} {P : α → Prop}
    (ended : result = .ok value) (holds : P value) :
    deployment.Settles root kinds (Task.ofRefusal result : Task C R α) kinds P := by
  rw [ended]
  exact settles_pure holds

theorem settles_valid {checked : Schema.Checked α} {value : α} {P : α → Prop}
    (valid : checked = .valid value) (holds : P value) :
    deployment.Settles root kinds
      (Task.ofExcept (checked.toExcept.mapError Fault.schema) : Task C R α) kinds P := by
  rw [valid]
  exact settles_pure holds

theorem settles_count (count : Count) :
    deployment.Settles root kinds (Task.count count : Task C R Unit) kinds fun _ => True :=
  ⟨(), trivial, fun _ agrees =>
    ⟨_, rfl, agrees.stores.trans ⟨rfl, rfl, rfl, rfl⟩, agrees.quiet, agrees.finds⟩⟩

/-- A store that was asked to look something up answers as that of the deployment does. -/
theorem settles_query {query : Query R} (reading : query.isReading = true)
    (flawless : query.flaw? = none) {answer : query.Answer} {tables : Tables R}
    (answered : query.answer deployment.tables = .ok (answer, tables)) :
    deployment.Settles root kinds (Task.query query : Task C R query.Answer) kinds
      (· = answer) := by
  refine ⟨answer, rfl, fun other agrees => ⟨other, ?_, agrees⟩⟩
  have ran : query.run other.tables = .ok (answer, tables) := by
    rw [agrees.stores.tables, Query.run, flawless]
    exact answered
  -- The other deployment stays as it is, since a query that reads changes no row.
  have same : tables = other.tables := Query.tables_of_reading reading ran
  rw [perform_query agrees.quiet, ran]
  dsimp only
  rw [same]

theorem settles_search (asked : deployment.fixedSearch = none) {query : Embedding C} {limit : Int}
    {exclusion : Exclusion} {hits : List (Hit C R)}
    (searched : deployment.index.search query limit exclusion = .ok hits) :
    deployment.Settles root kinds (Task.ask (.search query limit exclusion)) kinds
      (· = .answer hits) := by
  refine ⟨_, rfl, fun other agrees => ?_⟩
  have found : other.answers (.search query limit exclusion) = .answer hits := by
    rw [answers_search, agrees.stores.fixedSearch, asked, agrees.stores.index]
    dsimp only
    rw [searched]
    rfl
  have replied := reply_search query limit exclusion agrees.quiet
  rw [found] at replied
  refine ⟨{ other with limits := limit :: other.limits },
    congrArg (fun pair => (Except.ok pair.1, pair.2)) replied, ?_⟩
  exact ⟨agrees.stores.trans ⟨rfl, rfl, rfl, rfl⟩, agrees.quiet, agrees.finds⟩

theorem settles_retrieve (asked : deployment.fixedRetrieval = none) (ids : List Text) :
    deployment.Settles root kinds (Task.ask (.retrieve ids)) kinds
      (· = .answer (deployment.index.retrieve ids)) := by
  refine ⟨_, rfl, fun other agrees => ⟨other, ?_, agrees⟩⟩
  have found : other.answers (.retrieve ids) = .answer (deployment.index.retrieve ids) := by
    rw [answers_retrieve, agrees.stores.fixedRetrieval, asked, agrees.stores.index]
    rfl
  have replied := reply_retrieve ids agrees.quiet
  rw [found] at replied
  exact congrArg (fun pair => (Except.ok pair.1, pair.2)) replied

variable {service : Service R} {key : CacheKey}

theorem perform_cached {written : String} (encoded : (service.key key).toString? = some written)
    {found : Option (Json R)} (read : deployment.cache.reading written = .ok found) :
    ∃ metrics, deployment.perform (service.cached key) =
      (.ok found, { deployment with metrics := metrics }) := by
  rw [CacheStore.reading] at read
  rw [Service.cached, Service.lookUp, Task.encoded_of_some encoded, pure_bind, perform_ask,
    reply_read]
  dsimp only
  cases replied : deployment.cache.read written with
  | off | absent =>
    rw [replied] at read
    cases read
    exact ⟨_, rfl⟩
  | found entry =>
    rw [replied, CacheReply.reading] at read
    dsimp only
    cases decoded : entry.decode with
    | error flaw =>
      rw [decoded] at read
      dsimp only at read ⊢
      cases broken : flaw.breakdown? with
      | some cause =>
        rw [broken] at read
        cases read
      | none =>
        rw [broken] at read
        cases read
        exact ⟨_, rfl⟩
    | ok value =>
      rw [decoded] at read
      -- Nothing at all is counted as a hit, too, but it is not found.
      cases value with
      | null | bool | int | real | string | array | object =>
        cases read
        exact ⟨_, rfl⟩

theorem settles_cached (inside : key.artifact ∈ kinds) {written : String}
    (encoded : (service.key key).toString? = some written) {found : Option (Json R)}
    (read : deployment.cache.reading written = .ok found) :
    deployment.Settles service.root kinds (service.cached key : Task C R _) kinds (· = found) := by
  refine ⟨found, rfl, fun other agrees => ?_⟩
  rw [← agrees.finds key inside written encoded] at read
  obtain ⟨metrics, ended⟩ := perform_cached encoded read
  exact ⟨_, ended, agrees.stores.trans ⟨rfl, rfl, rfl, rfl⟩, agrees.quiet, agrees.finds⟩

theorem perform_keep {written : String} (encoded : (service.key key).toString? = some written)
    (value : Json R) : deployment.perform (service.keep key value) = (.ok (), { deployment with
      cache := deployment.cache.write (service.key key) value
        (service.config.lifetimes.get key.artifact) }) := by
  rw [Service.keep, Service.store, Task.encoded_of_some encoded]
  rfl

theorem settles_keep (outside : key.artifact ∉ kinds) {written : String}
    (encoded : (service.key key).toString? = some written) (value : Json R) :
    deployment.Settles service.root kinds (service.keep key value : Task C R Unit) kinds
      fun _ => True := by
  refine ⟨(), trivial, fun other agrees => ?_⟩
  refine ⟨_, perform_keep encoded value, agrees.stores.trans ⟨rfl, rfl, rfl, rfl⟩, agrees.quiet, ?_⟩
  -- Keys that are written alike are of one kind, and no value of the kept kind is looked up again.
  intro name inside s named
  refine (CacheStore.reading_write (fun same => outside ?_) value _).trans
    (agrees.finds name inside s named)
  have texts : key.text service.root = name.text service.root :=
    (Text.ofString_of_toString? same).symm.trans (Text.ofString_of_toString? named)
  exact CacheKey.artifact_of_text texts ▸ inside

end Deployment

end PersonalFeed
