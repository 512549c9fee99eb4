import PersonalFeed.Service.Task

/-!
Contracts between programs and the stores they call. A contract says which calls a program may make
and which replies it has to cope with. What a program does is stated over all admitted replies, so
it holds under every handler that keeps the contract, whatever state that handler has.
-/

set_option autoImplicit false

namespace PersonalFeed

/-- The calls that a program may make, and the replies that it has to cope with. -/
structure Contract (C R : Type) where
  allows : Call C R → Prop
  admits : (call : Call C R) → call.Reply → Prop

/-- In the states of an invariant, a handler gives admitted replies to allowed calls, and the
invariant goes on to hold. -/
def Contract.KeptBy {C R σ : Type} (contract : Contract C R) (handler : Program.Handler C R σ)
    (inv : σ → Prop) : Prop :=
  ∀ call state, inv state → contract.allows call →
    contract.admits call (handler call state).1 ∧ inv (handler call state).2

namespace Program

variable {C R α β σ : Type}

/-- A program makes allowed calls only and ends with a value that meets a condition, as long as the
replies are admitted. -/
def Meets (contract : Contract C R) : Program C R α → (α → Prop) → Prop
  | .done value, P => P value
  | .ask call next, P =>
    contract.allows call ∧
      ∀ reply, contract.admits call reply → (next reply).Meets contract P

theorem meets_mono {contract : Contract C R} {program : Program C R α} {P Q : α → Prop}
    (meets : program.Meets contract P) (implies : ∀ value, P value → Q value) :
    program.Meets contract Q := by
  induction program with
  | done value => exact implies value meets
  | ask call next ih => exact ⟨meets.1, fun reply admitted => ih reply (meets.2 reply admitted)⟩

theorem meets_bind {contract : Contract C R} {program : Program C R α}
    {f : α → Program C R β} {P : α → Prop} {Q : β → Prop}
    (first : program.Meets contract P) (next : ∀ value, P value → (f value).Meets contract Q) :
    (program >>= f).Meets contract Q := by
  induction program with
  | done value => exact next value first
  | ask call rest ih => exact ⟨first.1, fun reply admitted => ih reply (first.2 reply admitted)⟩

theorem meets_run {contract : Contract C R} {handler : Handler C R σ} {inv : σ → Prop}
    (kept : contract.KeptBy handler inv) {program : Program C R α} {P : α → Prop}
    (meets : program.Meets contract P) (state : σ) (holds : inv state) :
    P (program.run handler state).1 ∧ inv (program.run handler state).2 := by
  induction program generalizing state with
  | done value => exact ⟨meets, holds⟩
  | ask call next ih =>
    obtain ⟨admitted, holds⟩ := kept call state holds meets.1
    exact ih _ (meets.2 _ admitted) _ holds

end Program

namespace Task

variable {C R α β : Type} {contract : Contract C R}

/-- A task makes allowed calls only, and every value that it ends with meets a condition. It may
stop early. -/
def Yields (contract : Contract C R) (task : Task C R α) (P : α → Prop) : Prop :=
  task.run.Meets contract fun result => ∀ value, result = .ok value → P value

theorem yields_mono {task : Task C R α} {P Q : α → Prop} (yields : task.Yields contract P)
    (implies : ∀ value, P value → Q value) : task.Yields contract Q :=
  Program.meets_mono yields fun _ holds value ended => implies value (holds value ended)

theorem yields_pure {value : α} {P : α → Prop} (holds : P value) :
    Yields contract (pure value : Task C R α) P := by
  intro other ended
  cases ended
  exact holds

theorem yields_throw (stop : Stop R) (P : α → Prop) :
    Yields contract (throw stop : Task C R α) P := by
  intro value ended
  cases ended

theorem yields_fail (cause : Fault R) (P : α → Prop) :
    Yields contract (fail cause : Task C R α) P :=
  yields_throw _ P

theorem yields_bind {task : Task C R α} {f : α → Task C R β} {P : α → Prop} {Q : β → Prop}
    (first : task.Yields contract P) (next : ∀ value, P value → (f value).Yields contract Q) :
    (task >>= f).Yields contract Q := by
  rw [Yields, ExceptT.run_bind]
  refine Program.meets_bind first fun result holds => ?_
  cases result with
  | ok value => exact next value (holds value rfl)
  | error stop => exact yields_throw stop Q

theorem yields_ask {call : Call C R} {P : call.Reply → Prop} (allowed : contract.allows call)
    (holds : ∀ reply, contract.admits call reply → P reply) :
    (ask call).Yields contract P := by
  refine ⟨allowed, fun reply admitted value ended => ?_⟩
  cases ended
  exact holds reply admitted

theorem yields_ofExcept {result : Except (Fault R) α} {P : α → Prop}
    (holds : ∀ value, result = .ok value → P value) :
    (ofExcept result : Task C R α).Yields contract P := by
  cases result with
  | ok value => exact yields_pure (holds value rfl)
  | error cause => exact yields_fail cause P

theorem yields_ofBreakdown {result : Except Breakdown α} {P : α → Prop}
    (holds : ∀ value, result = .ok value → P value) :
    (ofBreakdown result : Task C R α).Yields contract P := by
  cases result with
  | ok value => exact yields_pure (holds value rfl)
  | error cause => exact yields_fail _ P

theorem yields_ofRefusal {result : Except (Refusal R) α} {P : α → Prop}
    (holds : ∀ value, result = .ok value → P value) :
    (ofRefusal result : Task C R α).Yields contract P := by
  cases result with
  | ok value => exact yields_pure (holds value rfl)
  | error cause => exact yields_fail _ P

theorem yields_answer {store : String} {outcome : Outcome α} {P : α → Prop}
    (holds : ∀ value, outcome = .answer value → P value) :
    (answer store outcome : Task C R α).Yields contract P := by
  cases outcome with
  | answer value => exact yields_pure (holds value rfl)
  | broken cause => exact yields_fail _ P
  | down reason => exact yields_fail _ P
  | silent => exact yields_throw _ P

theorem yields_query {q : Query R} {P : q.Answer → Prop} (allowed : contract.allows (.query q))
    (holds : ∀ value, contract.admits (.query q) (.answer value) → P value) :
    (query q : Task C R q.Answer).Yields contract P := by
  refine yields_bind (yields_ask allowed fun reply admitted => admitted) fun reply admitted => ?_
  refine yields_answer fun value answered => holds value ?_
  rw [← answered]
  exact admitted

theorem yields_bounded {name : String} {task : Task C R α} {P : α → Prop}
    (yields : task.Yields contract P) : (bounded name task).Yields contract P := by
  refine Program.meets_bind yields fun result holds => ?_
  match result with
  | .ok value => exact holds
  | .error .silence => exact yields_throw _ P
  | .error (.fault cause) => exact holds

theorem yields_attempt {part : Part} {task : Task C R α} {P : α → Prop}
    (counts : ∀ count, contract.allows (.count count)) (yields : task.Yields contract P) :
    (attempt part task).Yields contract fun result => ∀ value, result = some value → P value := by
  refine Program.meets_bind (yields_bounded yields) fun result holds => ?_
  match result with
  | .ok value =>
    intro other ended
    cases ended
    intro value found
    cases found
    exact holds _ rfl
  | .error (.fault (.outage _ _)) =>
    refine yields_bind (yields_ask (counts _) fun _ _ => trivial) fun _ _ => ?_
    exact yields_pure fun value found => by cases found
  | .error (.fault (.refused _)) | .error (.fault (.dimension _))
  | .error (.fault (.configuration _)) | .error (.fault (.schema _))
  | .error (.fault (.broken _)) | .error .silence => exact yields_throw _ _

theorem yields_both {first : Task C R α} {second : Task C R β} {P : α → Prop} {Q : β → Prop}
    (left : first.Yields contract P) (right : second.Yields contract Q) :
    (both first second).Yields contract fun pair => P pair.1 ∧ Q pair.2 := by
  refine Program.meets_bind left fun a ha => Program.meets_bind right fun b hb => ?_
  intro pair ended
  cases a with
  | error stop => cases ended
  | ok a =>
    cases b with
    | error stop => cases ended
    | ok b =>
      cases ended
      exact ⟨ha a rfl, hb b rfl⟩

/-- A task makes allowed calls only and ends with a value that meets a condition. It never stops
early. -/
def Ends (contract : Contract C R) (task : Task C R α) (P : α → Prop) : Prop :=
  task.run.Meets contract fun result => ∃ value, result = .ok value ∧ P value

theorem yields_of_ends {task : Task C R α} {P : α → Prop} (ends : task.Ends contract P) :
    task.Yields contract P := by
  refine Program.meets_mono ends fun result ended value same => ?_
  obtain ⟨other, found, holds⟩ := ended
  cases found.symm.trans same
  exact holds

theorem ends_pure {value : α} {P : α → Prop} (holds : P value) :
    Ends contract (pure value : Task C R α) P :=
  ⟨value, rfl, holds⟩

theorem ends_bind {task : Task C R α} {f : α → Task C R β} {P : α → Prop} {Q : β → Prop}
    (first : task.Ends contract P) (next : ∀ value, P value → (f value).Ends contract Q) :
    (task >>= f).Ends contract Q := by
  rw [Ends, ExceptT.run_bind]
  refine Program.meets_bind first fun result ended => ?_
  obtain ⟨value, rfl, holds⟩ := ended
  exact next value holds

theorem ends_query {q : Query R} {P : q.Answer → Prop} (allowed : contract.allows (.query q))
    (answered : ∀ reply, contract.admits (.query q) reply →
      ∃ value, reply = .answer value ∧ P value) :
    (query q : Task C R q.Answer).Ends contract P := by
  refine ⟨allowed, fun reply admitted => ?_⟩
  obtain ⟨value, rfl, holds⟩ := answered reply admitted
  exact ⟨value, rfl, holds⟩

theorem ends_attempt {part : Part} {task : Task C R α} {P : α → Prop}
    (ends : task.Ends contract P) :
    (attempt part task).Ends contract fun result => ∃ value, result = some value ∧ P value := by
  refine Program.meets_bind (Program.meets_bind ends fun result ended => ?_)
    (P := fun result => ∃ value, result = .ok value ∧ P value) fun result ended => ?_
  · obtain ⟨value, rfl, holds⟩ := ended
    exact ⟨value, rfl, holds⟩
  · obtain ⟨value, rfl, holds⟩ := ended
    exact ⟨some value, rfl, value, rfl, holds⟩

end Task

end PersonalFeed
