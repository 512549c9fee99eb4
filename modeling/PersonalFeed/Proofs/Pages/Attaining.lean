import PersonalFeed.Proofs.Entries.Settling
import PersonalFeed.Proofs.Exposure.Outages
import PersonalFeed.Proofs.Losses.Loads

/-!
Tasks that attain a value. Stores that never fail and a coherent cache lead a task to the same value
again and again, and the searches of the task are noted, each with its limit.
-/

set_option autoImplicit false

namespace PersonalFeed

variable {C R : Type}

namespace Deployment

variable {α β : Type} [Score R] [Component C R] {service : Service R}
variable {deployment other : Deployment C R}

theorem limits_reply {call : Call C R} (other : call.lookup? ≠ some searchName) :
    (reply call deployment).2.limits = deployment.limits := by
  cases call with
  | search => exact absurd rfl other
  | query | retrieve | index =>
    exact guarded_frame limits (fun _ => rfl) fun other => by split <;> rfl
  | openIndex => exact guarded_frame limits (fun _ => rfl) fun _ => rfl
  | read | write | delete | scan | count => rfl

theorem limits_of_strict {task : Task C R α} (strict : task.IsStrict (· ≠ searchName)) :
    (deployment.perform task).2.limits = deployment.limits := by
  unfold perform run
  unfold Task.IsStrict at strict
  -- Each call leaves the limits, and the rest of the program goes on from the reply.
  generalize task.run = program at strict
  induction program generalizing deployment with
  | done result => rfl
  | ask call next ih =>
    have asked : call.lookup? ≠ some searchName := fun named => strict.1 _ named rfl
    exact (ih _ (strict.2 _).2).trans (limits_reply asked)

/-- On the stores of a deployment and a coherent cache a task ends with a value, after searches with
some limits, the latest of them first. -/
def Attains (service : Service R) (deployment : Deployment C R) (task : Task C R α) (value : α)
    (limits : List Int) : Prop :=
  ∀ other, deployment.SameStores other → other.IsCoherent service (fun _ => False) →
    ∃ later, other.perform task = (.ok value, later) ∧ deployment.SameStores later ∧
      later.IsCoherent service (fun _ => False) ∧ later.limits = limits ++ other.limits

theorem attains_pure (value : α) :
    deployment.Attains service (pure value : Task C R α) value [] :=
  fun _ same coherent => ⟨_, rfl, same, coherent, rfl⟩

/-- A task that comes to its value without a look-up that is cached wrongly or a search. -/
theorem attains_of_tracks (asks : Query R → Prop)
    (reading : ∀ query, asks query → query.isReading = true) {task : Task C R α} {value : α}
    (tracked : task.Tracks (coherenceTerms service deployment.answers asks fun _ => False).contract
      deployment.answers False)
    (strict : task.IsStrict (· ≠ searchName))
    (ended : task.eval deployment.answers = .ok value) :
    deployment.Attains service task value [] := by
  intro other same coherent
  obtain ⟨result, after, stays⟩ :=
    Program.meets_run (keptBy_reply reading) tracked other ⟨same, coherent⟩
  have value : (other.perform task).1 = .ok value := (result.resolve_left id).trans ended
  exact ⟨_, Prod.ext value rfl, after, stays, limits_of_strict strict⟩

theorem attains_bind {task : Task C R α} {f : α → Task C R β} {value : α} {result : β}
    {limits : List Int} (first : deployment.Attains service task value [])
    (next : deployment.Attains service (f value) result limits) :
    deployment.Attains service (task >>= f) result limits := by
  intro other same coherent
  obtain ⟨middle, ended, same, coherent, kept⟩ := first other same coherent
  obtain ⟨later, ended', same, coherent, noted⟩ := next middle same coherent
  exact ⟨later, (perform_bind_ok ended f).trans ended', same, coherent,
    noted.trans (congrArg (limits ++ ·) kept)⟩

theorem attains_bind_last {task : Task C R α} {f : α → Task C R β} {value : α} {result : β}
    {limits : List Int} (first : deployment.Attains service task value limits)
    (next : deployment.Attains service (f value) result []) :
    deployment.Attains service (task >>= f) result limits := by
  intro other same coherent
  obtain ⟨middle, ended, same, coherent, noted⟩ := first other same coherent
  obtain ⟨later, ended', same, coherent, kept⟩ := next middle same coherent
  exact ⟨later, (perform_bind_ok ended f).trans ended', same, coherent, kept.trans noted⟩

theorem attains_attempt (part : Part) {task : Task C R α} {value : α} {limits : List Int}
    (attains : deployment.Attains service task value limits) :
    deployment.Attains service (Task.attempt part task) (some value) limits := by
  intro other same coherent
  obtain ⟨later, ended, after⟩ := attains other same coherent
  exact ⟨later, perform_attempt part ended, after⟩

theorem attains_both {first : Task C R α} {second : Task C R β} {value : α} {result : β}
    (left : deployment.Attains service first value [])
    (right : deployment.Attains service second result []) :
    deployment.Attains service (Task.both first second) (value, result) [] := by
  intro other same coherent
  obtain ⟨middle, ended, same, coherent, kept⟩ := left other same coherent
  obtain ⟨later, ended', same, coherent, kept'⟩ := right middle same coherent
  exact ⟨later, perform_both ended ended', same, coherent, kept'.trans kept⟩

theorem attains_ofExcept {result : Except (Fault R) α} {value : α} (ended : result = .ok value) :
    deployment.Attains service (Task.ofExcept result : Task C R α) value [] := by
  rw [ended]
  exact attains_pure value

/-- A search for something ends with what the index finds, and is noted with its limit. -/
theorem attains_search (asked : deployment.fixedSearch = none) {vector : Embedding C} {limit : Int}
    (positive : 0 < limit) {ids posts : List Text} {hits : List (Hit C R)}
    {found : List (Neighbour C R)}
    (searched : deployment.index.search vector limit ⟨ids, posts⟩ = .ok hits)
    (read : hits.mapM Hit.neighbour = .ok found) :
    deployment.Attains service (Service.findNeighbours vector limit (.ids ids) posts :
      Task C R (List (Neighbour C R))) found [limit] := by
  intro other same coherent
  have answered : other.answers (.search vector limit ⟨ids, posts⟩) = .answer hits := by
    rw [answers_congr same, answers_search, asked]
    dsimp only
    rw [searched]
    rfl
  have replied := reply_search vector limit ⟨ids, posts⟩ coherent.quiet
  rw [answered] at replied
  refine ⟨{ other with limits := limit :: other.limits }, ?_, same.trans ⟨rfl, rfl, rfl, rfl⟩,
    coherent.goesOn ⟨rfl, rfl, rfl, rfl⟩ coherent.quiet coherent.on coherent.cache, rfl⟩
  -- A search for nothing would not be asked at all, so the limit has to be positive.
  rw [Service.findNeighbours, if_neg (by omega)]
  refine (perform_ask _ _).trans ?_
  rw [replied]
  change perform _ (Task.ofBreakdown (hits.mapM Hit.neighbour)) = _
  rw [read]
  rfl

end Deployment

end PersonalFeed
