import PersonalFeed.Proofs.Program.Evaluation
import PersonalFeed.Proofs.Results

/-!
Two tasks side by side, each with answers of its own. They mirror each other if both stop alike or
end with related values. One follows the other if it ends with a related value whenever the other
ends with a value, and is lost with it. Mirroring and following compose like the tasks do.
-/

set_option autoImplicit false

namespace PersonalFeed

variable {C R α α' β β' : Type}

def Matches {ε : Type} (related : α → α' → Prop) : Except ε α → Except ε α' → Prop
  | .ok value, .ok value' => related value value'
  | .error cause, .error cause' => cause = cause'
  | .ok _, .error _ | .error _, .ok _ => False

theorem matches_refl {ε : Type} {related : α → α → Prop} (refl : ∀ value, related value value)
    (result : Except ε α) : Matches related result result := by
  cases result with
  | ok value => exact refl value
  | error cause => rfl

theorem eq_of_matches {ε : Type} {result result' : Except ε α}
    (same : Matches Eq result result') : result = result' := by
  cases result <;> cases result' <;> first | exact congrArg _ same | exact same.elim

namespace Task

variable {answers answers' : Answers C R} {related : α → α' → Prop}

def Mirrors (answers answers' : Answers C R) (related : α → α' → Prop) (task : Task C R α)
    (task' : Task C R α') : Prop :=
  Matches related (task.eval answers) (task'.eval answers')

theorem mirrors_pure {value : α} {value' : α'} (holds : related value value') :
    Mirrors answers answers' related (pure value) (pure value') := holds

theorem mirrors_throw (stop : Stop R) :
    Mirrors answers answers' related (throw stop) (throw stop) :=
  (rfl : stop = stop)

theorem mirrors_of_eval {task task' : Task C R α} {related : α → α → Prop}
    (refl : ∀ value, related value value) (same : task.eval answers = task'.eval answers') :
    Mirrors answers answers' related task task' := by
  rw [Mirrors, same]
  exact matches_refl refl _

theorem mirrors_bind {task : Task C R α} {task' : Task C R α'} {f : α → Task C R β}
    {f' : α' → Task C R β'} {results : β → β' → Prop}
    (first : Mirrors answers answers' related task task')
    (next : ∀ value value', related value value' →
      Mirrors answers answers' results (f value) (f' value')) :
    Mirrors answers answers' results (task >>= f) (task' >>= f') := by
  unfold Mirrors at first ⊢
  rw [eval_bind, eval_bind]
  -- Both first tasks end well or both stop, since a value never mirrors a stop.
  cases ended : task.eval answers with
  | ok value =>
    cases ended' : task'.eval answers' with
    | ok value' =>
      rw [ended, ended'] at first
      exact next value value' first
    | error stop =>
      rw [ended, ended'] at first
      exact first.elim
  | error stop =>
    cases ended' : task'.eval answers' with
    | ok value' =>
      rw [ended, ended'] at first
      exact first.elim
    | error stop' =>
      rw [ended, ended'] at first
      exact first

theorem mirrors_both {first : Task C R α} {first' : Task C R α'} {second : Task C R β}
    {second' : Task C R β'} {others : β → β' → Prop}
    (left : Mirrors answers answers' related first first')
    (right : Mirrors answers answers' others second second') :
    Mirrors answers answers' (fun pair pair' => related pair.1 pair'.1 ∧ others pair.2 pair'.2)
      (both first second) (both first' second') := by
  unfold Mirrors at left right ⊢
  rw [eval_both, eval_both]
  generalize first.eval answers = a, first'.eval answers' = a' at left
  generalize second.eval answers = b, second'.eval answers' = b' at right
  cases a <;> cases a' <;> first | exact left.elim | skip
  · exact left
  · cases b <;> cases b' <;> first | exact right.elim | skip
    · exact right
    · exact ⟨left, right⟩

theorem mirrors_ofExcept (result : Except (Fault R) α) :
    Mirrors answers answers' Eq (ofExcept result) (ofExcept result) :=
  mirrors_of_eval (fun _ => rfl) (by simp)

theorem mirrors_ofBreakdown (result : Except Breakdown α) :
    Mirrors answers answers' Eq (ofBreakdown result) (ofBreakdown result) :=
  mirrors_of_eval (fun _ => rfl) (by simp)

theorem mirrors_ofRefusal (result : Except (Refusal R) α) :
    Mirrors answers answers' Eq (ofRefusal result) (ofRefusal result) :=
  mirrors_of_eval (fun _ => rfl) (by simp)

theorem mirrors_count (count : Count) :
    Mirrors answers answers' Eq (Task.count count) (Task.count count) := rfl

end Task

def Stop.isLoss {R : Type} : Stop R → Bool
  | .silence | .fault (.outage _ _) => true
  | .fault (.refused _) | .fault (.dimension _) | .fault (.configuration _) | .fault (.schema _)
  | .fault (.broken _) => false

theorem Task.attempted_error {R : Type} (stop : Stop R) :
    attempted (.error stop : Except (Stop R) α) =
      if stop.isLoss then .ok none else .error stop := by
  cases stop with
  | silence => rfl
  | fault cause => cases cause <;> rfl

/-- Where the first result is a value so is the second, in a relation with it. Where the first is a
stop of some kinds so is the second. Other stops of the first say nothing about the second. -/
def Bears {R : Type} (kinds : Stop R → Bool) (related : α → α' → Prop) (result : Except (Stop R) α)
    (result' : Except (Stop R) α') : Prop :=
  match result with
  | .ok value => ∃ value', result' = .ok value' ∧ related value value'
  | .error stop => kinds stop = true → ∃ stop', result' = .error stop' ∧ kinds stop' = true

namespace Task

variable {answers answers' : Answers C R} {kinds : Stop R → Bool} {related : α → α' → Prop}

def Leads (answers answers' : Answers C R) (kinds : Stop R → Bool) (related : α → α' → Prop)
    (task : Task C R α) (task' : Task C R α') : Prop :=
  Bears kinds related (task.eval answers) (task'.eval answers')

theorem leads_pure {value : α} {value' : α'} (holds : related value value') :
    Leads answers answers' kinds related (pure value) (pure value') := ⟨value', rfl, holds⟩

theorem leads_of_eval {task task' : Task C R α} {related : α → α → Prop}
    (refl : ∀ value, related value value) (same : task'.eval answers' = task.eval answers) :
    Leads answers answers' kinds related task task' := by
  rw [Leads, same]
  cases task.eval answers with
  | ok value => exact ⟨value, rfl, refl value⟩
  | error stop => exact fun kind => ⟨stop, rfl, kind⟩

theorem leads_bind {task : Task C R α} {task' : Task C R α'} {f : α → Task C R β}
    {f' : α' → Task C R β'} {results : β → β' → Prop}
    (first : Leads answers answers' kinds related task task')
    (next : ∀ value value', related value value' →
      Leads answers answers' kinds results (f value) (f' value')) :
    Leads answers answers' kinds results (task >>= f) (task' >>= f') := by
  unfold Leads at first ⊢
  cases ended : task.eval answers with
  | ok value =>
    rw [ended] at first
    obtain ⟨value', ended', holds⟩ := first
    rw [eval_bind_ok ended, eval_bind_ok ended']
    exact next value value' holds
  | error stop =>
    rw [ended] at first
    rw [eval_bind_error ended]
    intro kind
    obtain ⟨stop', ended', kind'⟩ := first kind
    exact ⟨stop', eval_bind_error ended' f', kind'⟩

theorem leads_attempt (part : Part) {task : Task C R α} {task' : Task C R α'}
    (leads : Leads answers answers' Stop.isLoss related task task') :
    Leads answers answers' (fun _ => false) (Option.Rel related) (attempt part task)
      (attempt part task') := by
  unfold Leads at leads ⊢
  rw [eval_attempt, eval_attempt]
  cases ended : task.eval answers with
  | ok value =>
    rw [ended] at leads
    obtain ⟨value', ended', holds⟩ := leads
    rw [ended']
    exact ⟨some value', rfl, .some holds⟩
  | error stop =>
    rw [ended] at leads
    rw [attempted_error]
    split
    · rename_i loss
      obtain ⟨stop', ended', loss'⟩ := leads loss
      rw [ended', attempted_error, if_pos loss']
      exact ⟨none, rfl, .none⟩
    · exact fun kind => absurd kind Bool.false_ne_true

theorem leads_ofExcept {result : Except (Fault R) α} {result' : Except (Fault R) α'}
    (others : ∀ cause, result = .error cause → kinds (.fault cause) = false)
    (ends : ∀ value, result = .ok value → ∃ value', result' = .ok value' ∧ related value value') :
    Leads answers answers' kinds related (ofExcept result) (ofExcept result') := by
  cases result with
  | ok value =>
    obtain ⟨value', rfl, holds⟩ := ends value rfl
    exact leads_pure holds
  | error cause => exact fun kind => absurd kind (Bool.eq_false_iff.1 (others cause rfl))

theorem leads_ofBreakdown {result : Except Breakdown α} {result' : Except Breakdown α'}
    (others : ∀ cause, kinds (.fault (.broken cause)) = false)
    (ends : ∀ value, result = .ok value → ∃ value', result' = .ok value' ∧ related value value') :
    Leads answers answers' kinds related (ofBreakdown result) (ofBreakdown result') := by
  refine leads_ofExcept (fun cause failed => ?_) fun value ended => ?_
  · cases result <;> cases failed
    exact others _
  · obtain ⟨value', ended', holds⟩ := ends value (ok_of_mapError ended)
    rw [ended']
    exact ⟨value', rfl, holds⟩

end Task

end PersonalFeed
