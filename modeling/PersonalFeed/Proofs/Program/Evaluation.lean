import PersonalFeed.Proofs.Program.Contract

/-!
What a program comes to when every call has a fixed answer. A run whose replies may differ keeps
track of that value: it ends with it, or there is an excuse. Tracking composes like the programs do.
-/

set_option autoImplicit false

namespace PersonalFeed

abbrev Answers (C R : Type) := (call : Call C R) → call.Reply

namespace Program

variable {C R α β : Type} {answers answers' : Answers C R}

def eval (answers : Answers C R) : Program C R α → α
  | done value => value
  | ask call next => (next (answers call)).eval answers

@[simp] theorem eval_done (value : α) : (done value : Program C R α).eval answers = value := rfl

@[simp] theorem eval_ask (call : Call C R) (next : call.Reply → Program C R α) :
    (ask call next).eval answers = (next (answers call)).eval answers := rfl

theorem eval_bind (program : Program C R α) (f : α → Program C R β) :
    (program >>= f).eval answers = (f (program.eval answers)).eval answers := by
  induction program with
  | done value => rfl
  | ask call next ih => exact ih _

/-- What a program meets by contract is true of its value, if the answers are admitted. -/
theorem eval_of_meets {contract : Contract C R} {program : Program C R α} {P : α → Prop}
    (meets : program.Meets contract P)
    (admitted : ∀ call, contract.allows call → contract.admits call (answers call)) :
    P (program.eval answers) := by
  induction program with
  | done value => exact meets
  | ask call next ih => exact ih _ (meets.2 _ (admitted call meets.1))

-- Only the calls that are allowed matter, so the contract also bounds what a value depends on.
theorem eval_congr {contract : Contract C R} {program : Program C R α} {P : α → Prop}
    (meets : program.Meets contract P)
    (admitted : ∀ call, contract.allows call → contract.admits call (answers call))
    (agree : ∀ call, contract.allows call → answers' call = answers call) :
    program.eval answers' = program.eval answers := by
  induction program with
  | done value => rfl
  | ask call next ih =>
    rw [eval_ask, eval_ask, agree call meets.1]
    exact ih _ (meets.2 _ (admitted call meets.1))

def Tracks (contract : Contract C R) (answers : Answers C R) (excused : Prop)
    (program : Program C R α) : Prop :=
  program.Meets contract fun value => excused ∨ value = program.eval answers

variable {contract : Contract C R} {excused : Prop}

theorem tracks_done (value : α) : (done value : Program C R α).Tracks contract answers excused :=
  .inr rfl

theorem tracks_ask {call : Call C R} {next : call.Reply → Program C R α}
    (allowed : contract.allows call)
    (answered : ∀ reply, contract.admits call reply → reply = answers call)
    (later : ∀ reply, (next reply).Tracks contract answers excused) :
    (ask call next).Tracks contract answers excused := by
  refine ⟨allowed, fun reply admitted => meets_mono (later reply) fun value tracked => ?_⟩
  rw [eval_ask, ← answered reply admitted]
  exact tracked

theorem tracks_bind {program : Program C R α} {f : α → Program C R β}
    (first : program.Tracks contract answers excused)
    (next : ∀ value, (excused ∨ value = program.eval answers) →
      (f value).Tracks contract answers excused) :
    (program >>= f).Tracks contract answers excused := by
  refine meets_bind first fun value tracked => meets_mono (next value tracked) fun ended after => ?_
  rw [eval_bind]
  rcases tracked with excuse | rfl
  · exact .inl excuse
  · exact after

end Program

namespace Task

variable {C R α β : Type} {contract : Contract C R} {answers : Answers C R} {excused : Prop}

def eval (answers : Answers C R) (task : Task C R α) : Except (Stop R) α :=
  task.run.eval answers

@[simp] theorem eval_pure (value : α) : (pure value : Task C R α).eval answers = .ok value := rfl

@[simp] theorem eval_throw (stop : Stop R) :
    (throw stop : Task C R α).eval answers = .error stop := rfl

@[simp] theorem eval_fail (cause : Fault R) :
    (fail cause : Task C R α).eval answers = .error (.fault cause) := rfl

@[simp] theorem eval_ask (call : Call C R) : (ask call).eval answers = .ok (answers call) := rfl

theorem eval_bind (task : Task C R α) (f : α → Task C R β) :
    (task >>= f).eval answers = task.eval answers >>= fun value => (f value).eval answers := by
  rw [eval, eval, ExceptT.run_bind, Program.eval_bind]
  cases task.run.eval answers <;> rfl

theorem eval_bind_ok {task : Task C R α} {value : α} (ended : task.eval answers = .ok value)
    (f : α → Task C R β) : (task >>= f).eval answers = (f value).eval answers := by
  rw [eval_bind, ended]
  rfl

theorem map_eval_bind_ok {γ : Type} {task : Task C R α} {value : α}
    (ended : task.eval answers = .ok value) (f : α → Task C R β) (g : β → γ) :
    ((task >>= f).eval answers).map g = ((f value).eval answers).map g :=
  congrArg (Except.map g) (eval_bind_ok ended f)

theorem eval_bind_error {task : Task C R α} {stop : Stop R}
    (ended : task.eval answers = .error stop) (f : α → Task C R β) :
    (task >>= f).eval answers = .error stop := by
  rw [eval_bind, ended]
  rfl

theorem eval_query {q : Query R} {answer : q.Answer}
    (answered : answers (.query q) = .answer answer) :
    (query q : Task C R q.Answer).eval answers = .ok answer := by
  rw [query, eval_bind_ok (eval_ask _), answered]
  rfl

theorem answered_of_eval {q : Query R} {answer : q.Answer}
    (ended : (query q : Task C R q.Answer).eval answers = .ok answer) :
    answers (.query q) = .answer answer := by
  rw [query, eval_bind_ok (eval_ask _)] at ended
  cases answered : answers (.query q) with
  | answer value =>
    rw [answered] at ended
    exact congrArg Outcome.answer (Except.ok.inj ended)
  | broken | down | silent =>
    rw [answered] at ended
    cases ended

def attempted : Except (Stop R) α → Except (Stop R) (Option α)
  | .ok value => .ok (some value)
  | .error .silence => .ok none
  | .error (.fault (.outage _ _)) => .ok none
  | .error stop => .error stop

theorem eval_attempt (part : Part) (task : Task C R α) :
    (attempt part task).eval answers = attempted (task.eval answers) := by
  have bounded : (bounded part.name task).run.eval answers = _ := Program.eval_bind _ _
  have ended : (attempt part task).eval answers = _ := Program.eval_bind _ _
  rw [ended, bounded, eval]
  cases task.run.eval answers with
  | ok value => rfl
  | error stop =>
    cases stop with
    | silence => rfl
    | fault cause => cases cause <;> rfl

theorem eval_attempt_ok {part : Part} {task : Task C R α} {value : α}
    (ended : task.eval answers = .ok value) :
    (attempt part task).eval answers = .ok (some value) := by
  rw [eval_attempt, ended]
  rfl

theorem eval_both (first : Task C R α) (second : Task C R β) :
    (both first second).eval answers =
      first.eval answers >>= fun a => second.eval answers >>= fun b => .ok (a, b) := by
  have ended : (both first second).eval answers = _ :=
    (Program.eval_bind _ _).trans (Program.eval_bind _ _)
  rw [ended, eval, eval]
  cases first.run.eval answers <;> cases second.run.eval answers <;> rfl

theorem eval_both_ok {first : Task C R α} {second : Task C R β} {a : α} {b : β}
    (left : first.eval answers = .ok a) (right : second.eval answers = .ok b) :
    (both first second).eval answers = .ok (a, b) := by
  rw [eval_both, left, right]
  rfl

@[simp] theorem eval_ofExcept (result : Except (Fault R) α) :
    (ofExcept result : Task C R α).eval answers = result.mapError .fault := by
  cases result <;> rfl

@[simp] theorem eval_ofBreakdown (result : Except Breakdown α) :
    (ofBreakdown result : Task C R α).eval answers =
      result.mapError fun cause => .fault (.broken cause) := by
  cases result <;> rfl

@[simp] theorem eval_ofRefusal (result : Except (Refusal R) α) :
    (ofRefusal result : Task C R α).eval answers =
      result.mapError fun cause => .fault (.refused cause) := by
  cases result <;> rfl

theorem eval_ofExcept_ok {result : Except (Fault R) α} {value : α} (ended : result = .ok value) :
    (ofExcept result : Task C R α).eval answers = .ok value := by
  rw [eval_ofExcept, ended]
  rfl

theorem eval_ofRefusal_ok {result : Except (Refusal R) α} {value : α}
    (ended : result = .ok value) : (ofRefusal result : Task C R α).eval answers = .ok value := by
  rw [eval_ofRefusal, ended]
  rfl

def Tracks (contract : Contract C R) (answers : Answers C R) (excused : Prop)
    (task : Task C R α) : Prop :=
  task.run.Tracks contract answers excused

theorem tracks_pure (value : α) : (pure value : Task C R α).Tracks contract answers excused :=
  Program.tracks_done _

theorem tracks_throw (stop : Stop R) :
    (throw stop : Task C R α).Tracks contract answers excused :=
  Program.tracks_done _

theorem tracks_fail (cause : Fault R) :
    (fail cause : Task C R α).Tracks contract answers excused :=
  Program.tracks_done _

theorem tracks_bind {task : Task C R α} {f : α → Task C R β}
    (first : task.Tracks contract answers excused)
    (next : ∀ value, (excused ∨ task.eval answers = .ok value) →
      (f value).Tracks contract answers excused) :
    (task >>= f).Tracks contract answers excused := by
  refine Program.tracks_bind first fun result tracked => ?_
  cases result with
  | ok value => exact next value (tracked.imp_right Eq.symm)
  | error stop => exact tracks_throw stop

/-- Without an excuse for the first task the second one can rely on its value. -/
theorem tracks_bind_exact {task : Task C R α} {f : α → Task C R β}
    (first : task.Tracks contract answers False)
    (next : ∀ value, task.eval answers = .ok value → (f value).Tracks contract answers excused) :
    (task >>= f).Tracks contract answers excused := by
  rw [Tracks, Program.Tracks, ExceptT.run_bind]
  refine Program.meets_bind first fun result tracked => ?_
  have same : task.eval answers = result := (tracked.resolve_left id).symm
  cases result with
  | ok value =>
    refine Program.meets_mono (next value same) fun ended => .imp_right fun tracked => ?_
    exact tracked.trans (eval_bind_ok same f).symm
  | error stop => exact .inr (eval_bind_error same f).symm

theorem tracks_ask {call : Call C R} (allowed : contract.allows call)
    (answered : ∀ reply, contract.admits call reply → reply = answers call) :
    (ask call).Tracks contract answers excused :=
  Program.tracks_ask allowed answered fun _ => Program.tracks_done _

theorem tracks_ofExcept (result : Except (Fault R) α) :
    (ofExcept result : Task C R α).Tracks contract answers excused := by
  cases result with
  | ok value => exact tracks_pure value
  | error cause => exact tracks_fail cause

theorem tracks_ofBreakdown (result : Except Breakdown α) :
    (ofBreakdown result : Task C R α).Tracks contract answers excused :=
  tracks_ofExcept _

theorem tracks_ofRefusal (result : Except (Refusal R) α) :
    (ofRefusal result : Task C R α).Tracks contract answers excused :=
  tracks_ofExcept _

theorem tracks_answer (store : String) (outcome : Outcome α) :
    (answer store outcome : Task C R α).Tracks contract answers excused := by
  cases outcome with
  | answer value => exact tracks_pure value
  | broken cause => exact tracks_fail _
  | down reason => exact tracks_fail _
  | silent => exact tracks_throw _

theorem tracks_query {q : Query R} (allowed : contract.allows (.query q))
    (answered : ∀ reply, contract.admits (.query q) reply → reply = answers (.query q)) :
    (query q : Task C R q.Answer).Tracks contract answers excused := by
  refine tracks_bind (tracks_ask allowed answered) fun outcome _ => ?_
  exact tracks_answer databaseName outcome

theorem tracks_bounded {name : String} {task : Task C R α}
    (tracks : task.Tracks contract answers excused) :
    (bounded name task).Tracks contract answers excused := by
  refine Program.tracks_bind tracks fun result _ => ?_
  match result with
  | .ok _ | .error .silence | .error (.fault _) => exact Program.tracks_done _

theorem tracks_attempt {part : Part} {task : Task C R α}
    (counts : ∀ count, contract.allows (.count count))
    (tracks : task.Tracks contract answers excused) :
    (attempt part task).Tracks contract answers excused := by
  refine Program.tracks_bind (tracks_bounded tracks) fun result _ => ?_
  match result with
  | .error (.fault (.outage _ _)) =>
    exact tracks_bind (tracks_ask (counts _) fun _ _ => rfl) fun _ _ => tracks_pure _
  | .ok _ | .error .silence | .error (.fault (.refused _)) | .error (.fault (.dimension _))
  | .error (.fault (.configuration _)) | .error (.fault (.schema _))
  | .error (.fault (.broken _)) => exact Program.tracks_done _

theorem tracks_both {first : Task C R α} {second : Task C R β}
    (left : first.Tracks contract answers excused) (right : second.Tracks contract answers excused) :
    (both first second).Tracks contract answers excused :=
  Program.tracks_bind left fun _ _ => Program.tracks_bind right fun _ _ => Program.tracks_done _

end Task

end PersonalFeed
