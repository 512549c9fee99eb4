import PersonalFeed.Deployment
import PersonalFeed.Proofs.Program.Contract

/-!
Look-ups that are not answered. A strict program stops at the first of them. A program that goes on
discloses it: the value that it ends with is not good, unless every look-up was answered whose
failure is not spared.
-/

set_option autoImplicit false

namespace PersonalFeed

variable {C R α β σ : Type}

namespace Call

def lookup? : Call C R → Option String
  | query q => some q.name
  | search _ _ _ => some searchName
  | retrieve _ => some retrievalName
  | index _ _ _ | openIndex | read _ | write _ _ _ | delete _ | scan _ | count _ => none

def Fails : (call : Call C R) → call.Reply → Prop
  | query _, reply | search _ _ _, reply | retrieve _, reply => ∀ value, reply ≠ .answer value
  | index _ _ _, _ | openIndex, _ | read _, _ | write _ _ _, _ | delete _, _ | scan _, _
  | count _, _ => False

theorem not_fails {call : Call C R} (plain : call.lookup? = none) (reply : call.Reply) :
    ¬ call.Fails reply := by
  cases call <;> first | exact id | simp [lookup?] at plain

def Alters (text : Text) : Call C R → Prop
  | write key _ _ => key = text
  | delete _ => True
  | query _ | search _ _ _ | retrieve _ | index _ _ _ | openIndex | read _ | scan _ | count _ =>
    False

theorem lookup?_of_alters {text : Text} {call : Call C R} (alters : call.Alters text) :
    call.lookup? = none := by
  cases call <;> first | rfl | exact alters.elim

def Loses (spares : String → Prop) (call : Call C R) (reply : call.Reply) : Prop :=
  call.Fails reply ∧ ∀ name, call.lookup? = some name → ¬ spares name

end Call

structure Exchange (C R : Type) where
  call : Call C R
  reply : call.Reply

def Exchange.IsLost (spares : String → Prop) (exchange : Exchange C R) : Prop :=
  exchange.call.Loses spares exchange.reply

def Contract.lossy (contract : Contract C R) (spares : String → Prop) : Contract C R where
  allows := contract.allows
  admits call reply := call.Loses spares reply ∨ contract.admits call reply

def Contract.leaving (text : Text) : Contract C R where
  allows call := ¬ call.Alters text
  admits _ _ := True

namespace Program

def trace (handler : Handler C R σ) : Program C R α → σ → List (Exchange C R)
  | done _, _ => []
  | ask call next, state =>
    ⟨call, (handler call state).1⟩ :: (next (handler call state).1).trace handler
      (handler call state).2

theorem run_preserves {handler : Handler C R σ} {inv : σ → Prop} {program : Program C R α}
    {state : σ} (holds : inv state)
    (preserves : ∀ exchange ∈ program.trace handler state, ∀ state, inv state →
      inv (handler exchange.call state).2) : inv (program.run handler state).2 := by
  induction program generalizing state with
  | done value => exact holds
  | ask call next ih =>
    -- The rest of the run starts from what the first call left, and its calls are among all.
    refine ih _ (preserves _ List.mem_cons_self _ holds) fun exchange member => ?_
    exact preserves exchange (List.mem_cons_of_mem _ member)

/-- A program that looks up by some operations only, and ends with an error as soon as one of them
is not answered. -/
def IsStrict (asks : String → Prop) : Program C R (Except (Stop R) α) → Prop
  | done _ => True
  | ask call next =>
    (∀ name, call.lookup? = some name → asks name) ∧
      ∀ reply, (call.Fails reply → ∃ stop, next reply = done (.error stop)) ∧
        (next reply).IsStrict asks

/-- A program keeps to a contract although look-ups fail, and its value is good only if none of
those failed that are not spared. `intact` says that none failed before. -/
def Discloses (contract : Contract C R) (spares : String → Prop) (good : α → Prop) :
    Program C R α → Prop → Prop
  | done value, intact => good value → intact
  | ask call next, intact =>
    contract.allows call ∧ ∀ reply, call.Loses spares reply ∨ contract.admits call reply →
      (next reply).Discloses contract spares good (intact ∧ ¬ call.Loses spares reply)

variable {contract : Contract C R} {spares asks : String → Prop} {good : α → Prop}
variable {intact : Prop} {program : Program C R α}

theorem discloses_mono {other : Prop} {better : α → Prop}
    (discloses : program.Discloses contract spares good intact) (implies : intact → other)
    (fewer : ∀ value, better value → good value) :
    program.Discloses contract spares better other := by
  induction program generalizing intact other with
  | done value => exact fun holds => implies (discloses (fewer value holds))
  | ask call next ih =>
    refine ⟨discloses.1, fun reply admitted => ?_⟩
    exact ih reply (discloses.2 reply admitted) (And.imp_left implies)

/-- What was intact before a program is intact after it if the program disclosed no loss. -/
theorem discloses_frame {before : Prop} (discloses : program.Discloses contract spares good intact) :
    program.Discloses contract spares (fun value => good value ∧ before) (before ∧ intact) := by
  induction program generalizing intact with
  | done value => exact fun holds => ⟨holds.2, discloses holds.1⟩
  | ask call next ih =>
    refine ⟨discloses.1, fun reply admitted => ?_⟩
    exact discloses_mono (ih reply (discloses.2 reply admitted)) and_assoc.2 fun _ => id

theorem discloses_bind {f : α → Program C R β} {best : β → Prop}
    (first : program.Discloses contract spares good intact)
    (next : ∀ value, (f value).Discloses contract spares best (good value)) :
    (program >>= f).Discloses contract spares best intact := by
  induction program generalizing intact with
  | done value => exact discloses_mono (next value) first fun _ => id
  | ask call rest ih =>
    exact ⟨first.1, fun reply admitted => ih reply (first.2 reply admitted)⟩

section

variable {program : Program C R (Except (Stop R) α)} {P : Except (Stop R) α → Prop}

theorem discloses_of_strict (strict : program.IsStrict asks) (meets : program.Meets contract P) :
    program.Discloses contract spares (fun result => ∃ value, result = .ok value) True := by
  induction program with
  | done value => exact fun _ => trivial
  | ask call next ih =>
    refine ⟨meets.1, fun reply admitted => ?_⟩
    obtain ⟨stops, later⟩ := strict.2 reply
    by_cases lost : call.Loses spares reply
    · -- The program is over, and not with a value.
      obtain ⟨stop, ended⟩ := stops lost.1
      rw [ended]
      rintro ⟨value, same⟩
      cases same
    · have goes := ih reply later (meets.2 reply (admitted.resolve_left lost))
      exact discloses_mono goes (fun _ => ⟨trivial, lost⟩) fun _ => id

/-- A program that looks up by spared operations only has nothing to disclose. -/
theorem discloses_of_spared (strict : program.IsStrict asks) (meets : program.Meets contract P)
    (spared : ∀ name, asks name → spares name) :
    program.Discloses contract spares (fun _ => True) True := by
  induction program with
  | done value => exact id
  | ask call next ih =>
    refine ⟨meets.1, fun reply admitted => ?_⟩
    -- No reply is a loss: whatever the program looks up by is spared.
    have kept : ¬ call.Loses spares reply := by
      rintro ⟨fails, unspared⟩
      cases named : call.lookup? with
      | none => exact Call.not_fails named reply fails
      | some name => exact unspared name named (spared name (strict.1 name named))
    have goes := ih reply (strict.2 reply).2 (meets.2 reply (admitted.resolve_left kept))
    exact discloses_mono goes (fun _ => ⟨trivial, kept⟩) fun _ => id

end

theorem meets_of_discloses (discloses : program.Discloses contract spares good intact) :
    program.Meets contract fun _ => True := by
  induction program generalizing intact with
  | done value => trivial
  | ask call next ih =>
    exact ⟨discloses.1, fun reply admitted => ih reply (discloses.2 reply (.inr admitted))⟩

section

variable {program : Program C R (Except (Stop R) α)} {text : Text}

theorem meets_lossy (strict : program.IsStrict asks) {P : Except (Stop R) α → Prop}
    (meets : program.Meets contract P) :
    program.Meets (contract.lossy spares) fun _ => True := by
  induction program with
  | done value => trivial
  | ask call next ih =>
    refine ⟨meets.1, fun reply admitted => ?_⟩
    obtain ⟨stops, later⟩ := strict.2 reply
    rcases admitted with lost | admitted
    · obtain ⟨stop, ended⟩ := stops lost.1
      rw [ended]
      trivial
    · exact ih reply later (meets.2 reply admitted)

/-- A program alters what is under a key only if no look-up was lost before, and then looks nothing
up any more. -/
def Withholds (text : Text) (spares : String → Prop) :
    Program C R (Except (Stop R) α) → Prop → Prop
  | done _, _ => True
  | ask call next, intact =>
    (call.Alters text → intact ∧ ∀ reply, (next reply).IsStrict fun _ => False) ∧
      ∀ reply, (next reply).Withholds text spares (intact ∧ ¬ call.Loses spares reply)

theorem withholds_mono {other : Prop} (withholds : program.Withholds text spares intact)
    (implies : intact → other) : program.Withholds text spares other := by
  induction program generalizing intact other with
  | done value => trivial
  | ask call next ih =>
    refine ⟨fun alters => (withholds.1 alters).imp_left implies, fun reply => ?_⟩
    exact ih reply (withholds.2 reply) (And.imp_left implies)

/-- What comes after a part that discloses its losses may rely on it that nothing was lost, if the
value of the part is good. -/
theorem withholds_bind {first : Program C R β} {f : β → Program C R (Except (Stop R) α)}
    {good : β → Prop} (discloses : first.Discloses (.leaving text) spares good intact)
    (next : ∀ value, (f value).Withholds text spares (good value)) :
    (first >>= f).Withholds text spares intact := by
  induction first generalizing intact with
  | done value => exact withholds_mono (next value) discloses
  | ask call rest ih =>
    refine ⟨fun alters => absurd alters discloses.1, fun reply => ?_⟩
    exact ih reply (discloses.2 reply (.inr trivial))

theorem withholds_of_quiet (quiet : program.IsStrict fun _ => False) (whole : intact) :
    program.Withholds text spares intact := by
  induction program generalizing intact with
  | done value => trivial
  | ask call next ih =>
    have plain : call.lookup? = none := Option.eq_none_iff_forall_ne_some.2 quiet.1
    refine ⟨fun _ => ⟨whole, fun reply => (quiet.2 reply).2⟩, fun reply => ?_⟩
    exact ih reply (quiet.2 reply).2 ⟨whole, fun lost => Call.not_fails plain reply lost.1⟩

theorem trace_of_quiet (quiet : program.IsStrict fun _ => False) (handler : Handler C R σ)
    (state : σ) : ∀ exchange ∈ program.trace handler state, ¬ exchange.IsLost spares := by
  induction program generalizing state with
  | done value => exact fun exchange member => absurd member List.not_mem_nil
  | ask call next ih =>
    have plain : call.lookup? = none := Option.eq_none_iff_forall_ne_some.2 quiet.1
    rintro exchange (_ | ⟨_, member⟩)
    · exact fun lost => Call.not_fails plain _ lost.1
    · exact ih _ (quiet.2 _).2 _ exchange member

theorem trace_of_withholds (withholds : program.Withholds text spares intact)
    (handler : Handler C R σ) (state : σ) {altering : Exchange C R}
    (made : altering ∈ program.trace handler state) (alters : altering.call.Alters text) :
    intact ∧ ∀ exchange ∈ program.trace handler state, ¬ exchange.IsLost spares := by
  induction program generalizing intact state with
  | done value => exact absurd made List.not_mem_nil
  | ask call next ih =>
    -- Either this call alters, and none after it looks anything up, or a later one does.
    rcases List.mem_cons.1 made with rfl | made
    · obtain ⟨whole, quiet⟩ := withholds.1 alters
      refine ⟨whole, ?_⟩
      rintro exchange (_ | ⟨_, member⟩)
      · exact fun lost => Call.not_fails (Call.lookup?_of_alters alters) _ lost.1
      · exact trace_of_quiet (quiet _) handler _ exchange member
    · obtain ⟨⟨whole, kept⟩, others⟩ := ih _ (withholds.2 _) _ made
      refine ⟨whole, ?_⟩
      rintro exchange (_ | ⟨_, member⟩)
      · exact kept
      · exact others exchange member

end

end Program

namespace Task

variable {contract : Contract C R} {spares asks : String → Prop} {intact : Prop}

def IsStrict (asks : String → Prop) (task : Task C R α) : Prop := task.run.IsStrict asks

theorem isStrict_bind {task : Task C R α} {f : α → Task C R β} (first : task.IsStrict asks)
    (next : ∀ value, (f value).IsStrict asks) : (task >>= f).IsStrict asks := by
  rw [IsStrict, ExceptT.run_bind]
  unfold IsStrict at first
  generalize task.run = program at first
  induction program with
  | done result =>
    cases result with
    -- An error of the first part is the end of both.
    | ok value => exact next value
    | error stop => trivial
  | ask call rest ih =>
    refine ⟨first.1, fun reply => ⟨fun fails => ?_, ih reply (first.2 reply).2⟩⟩
    obtain ⟨stop, ended⟩ := (first.2 reply).1 fails
    exact ⟨stop, by simp only [ended]; rfl⟩

theorem isStrict_ofExcept (result : Except (Fault R) α) :
    (ofExcept result : Task C R α).IsStrict asks := by
  cases result <;> trivial

theorem isStrict_ofBreakdown (result : Except Breakdown α) :
    (ofBreakdown result : Task C R α).IsStrict asks :=
  isStrict_ofExcept _

theorem isStrict_ask {call : Call C R} (plain : call.lookup? = none) :
    (ask call).IsStrict asks := by
  refine ⟨fun name named => by simp [plain] at named, fun reply => ⟨fun fails => ?_, trivial⟩⟩
  exact absurd fails (Call.not_fails plain reply)

theorem isStrict_answer (store : String) (outcome : Outcome α) :
    (answer store outcome : Task C R α).IsStrict asks := by
  cases outcome <;> trivial

theorem isStrict_lookup {call : Call C R} {name : String} (named : call.lookup? = some name)
    (asked : asks name) {f : call.Reply → Task C R α}
    (stops : ∀ reply, call.Fails reply → ∃ stop, f reply = throw stop)
    (later : ∀ reply, (f reply).IsStrict asks) : (ask call >>= f).IsStrict asks := by
  refine ⟨fun other same => ?_, fun reply => ⟨fun fails => ?_, later reply⟩⟩
  · rw [named] at same
    exact Option.some.inj same ▸ asked
  · obtain ⟨stop, ended⟩ := stops reply fails
    exact ⟨stop, congrArg ExceptT.run ended⟩

theorem answer_of_fails (store : String) {outcome : Outcome α}
    (fails : ∀ value, outcome ≠ .answer value) :
    ∃ stop, (answer store outcome : Task C R α) = throw stop := by
  cases outcome with
  | answer value => exact absurd rfl (fails value)
  | broken | down | silent => exact ⟨_, rfl⟩

theorem isStrict_query {q : Query R} (asked : asks q.name) :
    (query q : Task C R q.Answer).IsStrict asks :=
  isStrict_lookup rfl asked (fun _ => answer_of_fails databaseName)
    fun _ => isStrict_answer databaseName _

theorem isStrict_search {vector : Embedding C} {limit : Int} {exclusion : Exclusion}
    (asked : asks searchName) {f : List (Hit C R) → Task C R α}
    (next : ∀ hits, (f hits).IsStrict asks) :
    (ask (.search vector limit exclusion) >>= fun reply => answer indexName reply >>= f).IsStrict
      asks := by
  refine isStrict_lookup rfl asked (fun reply fails => ?_)
    fun reply => isStrict_bind (isStrict_answer indexName reply) next
  obtain ⟨stop, same⟩ := answer_of_fails (C := C) (R := R) indexName fails
  exact ⟨stop, congrArg (· >>= f) same⟩

theorem isStrict_retrieve {ids : List Text} (asked : asks retrievalName)
    {f : List (Hit C R) → Task C R α} (next : ∀ hits, (f hits).IsStrict asks) :
    (ask (.retrieve ids) >>= fun reply => answer indexName reply >>= f).IsStrict asks := by
  refine isStrict_lookup rfl asked (fun reply fails => ?_)
    fun reply => isStrict_bind (isStrict_answer indexName reply) next
  obtain ⟨stop, same⟩ := answer_of_fails (C := C) (R := R) indexName fails
  exact ⟨stop, congrArg (· >>= f) same⟩

variable {α β : Type} {good : α → Prop}

def Obeys (contract : Contract C R) (task : Task C R α) : Prop := task.Yields contract fun _ => True

/-- A task keeps to a contract although look-ups fail, and what it ends with is good only if none of
those failed that are not spared. -/
def Discloses (contract : Contract C R) (spares : String → Prop) (good : α → Prop)
    (task : Task C R α) (intact : Prop) : Prop :=
  task.run.Discloses contract spares (fun result => ∃ value, result = .ok value ∧ good value) intact

/-- A task alters what is under a key only if no look-up was lost before, and then looks nothing up
any more. -/
def Withholds (text : Text) (spares : String → Prop) (task : Task C R α) (intact : Prop) : Prop :=
  task.run.Withholds text spares intact

theorem discloses_pure {value : α} (holds : good value → intact) :
    (pure value : Task C R α).Discloses contract spares good intact := by
  rintro ⟨other, same, fine⟩
  cases same
  exact holds fine

theorem discloses_throw (stop : Stop R) :
    (throw stop : Task C R α).Discloses contract spares good intact := by
  rintro ⟨value, same, -⟩
  cases same

theorem discloses_bind {task : Task C R α} {f : α → Task C R β} {best : β → Prop}
    (first : task.Discloses contract spares good intact)
    (next : ∀ value, (f value).Discloses contract spares best (good value)) :
    (task >>= f).Discloses contract spares best intact := by
  rw [Discloses, ExceptT.run_bind]
  refine Program.discloses_bind first fun result => ?_
  cases result with
  | ok value =>
    exact Program.discloses_mono (next value) (fun holds => ⟨value, rfl, holds⟩) fun _ => id
  | error stop => exact discloses_throw stop

theorem discloses_ofExcept (result : Except (Fault R) α) :
    (ofExcept result : Task C R α).Discloses contract spares (fun _ => intact) intact := by
  cases result with
  | ok value => exact discloses_pure id
  | error cause => exact discloses_throw _

theorem discloses_ofBreakdown (result : Except Breakdown α) :
    (ofBreakdown result : Task C R α).Discloses contract spares (fun _ => intact) intact :=
  discloses_ofExcept _

theorem discloses_ofRefusal (result : Except (Refusal R) α) :
    (ofRefusal result : Task C R α).Discloses contract spares (fun _ => intact) intact :=
  discloses_ofExcept _

theorem withholds_bind {task : Task C R α} {f : α → Task C R β} {text : Text}
    (first : task.Discloses (.leaving text) spares good intact)
    (next : ∀ value, (f value).Withholds text spares (good value)) :
    (task >>= f).Withholds text spares intact := by
  rw [Withholds, ExceptT.run_bind]
  refine Program.withholds_bind first fun result => ?_
  cases result with
  | ok value => exact Program.withholds_mono (next value) fun holds => ⟨value, rfl, holds⟩
  | error stop => trivial

theorem withholds_map {task : Task C R α} {text : Text}
    (withholds : task.Withholds text spares intact) (f : α → β) :
    (task >>= fun value => pure (f value)).Withholds text spares intact := by
  rw [Withholds, ExceptT.run_bind]
  unfold Withholds at withholds
  generalize task.run = program at withholds
  induction program generalizing intact with
  | done result => cases result <;> trivial
  | ask call next ih =>
    refine ⟨fun alters => ?_, fun reply => ih reply (withholds.2 reply)⟩
    obtain ⟨whole, quiet⟩ := withholds.1 alters
    exact ⟨whole, fun reply => isStrict_bind (quiet reply) fun _ => trivial⟩

theorem obeys_lossy {task : Task C R α} {P : Except (Stop R) α → Prop}
    (strict : task.IsStrict fun _ => True) (meets : task.run.Meets contract P) :
    task.Obeys (contract.lossy spares) :=
  Program.meets_mono (Program.meets_lossy strict meets) fun _ _ _ _ => trivial

theorem obeys_of_discloses {task : Task C R α}
    (discloses : task.Discloses contract spares good intact) : task.Obeys contract :=
  Program.meets_mono (Program.meets_of_discloses discloses) fun _ _ _ _ => trivial

theorem discloses_ask {call : Call C R} (allowed : contract.allows call)
    (plain : call.lookup? = none) :
    (ask call).Discloses contract spares (fun _ => intact) intact := by
  refine ⟨allowed, fun reply _ => discloses_pure fun whole => ⟨whole, ?_⟩⟩
  exact fun lost => Call.not_fails plain reply lost.1

theorem discloses_of_strict {task : Task C R α} (strict : task.IsStrict fun _ => True)
    (obeys : task.Obeys contract) : task.Discloses contract spares (fun _ => True) True :=
  Program.discloses_mono (Program.discloses_of_strict strict obeys) id
    fun _ ⟨value, ended, _⟩ => ⟨value, ended⟩

variable (counts : ∀ count, contract.allows (.count count))

include counts

theorem discloses_attempt {part : Part} {task : Task C R α}
    (discloses : task.Discloses contract spares (fun _ => True) intact) :
    (attempt part task).Discloses contract spares (fun found => found.isSome = true) intact := by
  have bounded : (bounded part.name task).Discloses contract spares (fun _ => True) intact := by
    refine Program.discloses_bind discloses fun result => ?_
    match result with
    | .ok value => exact fun _ => ⟨value, rfl, trivial⟩
    | .error .silence | .error (.fault _) => exact discloses_throw _
  refine Program.discloses_bind bounded fun result => ?_
  match result with
  | .ok value => exact fun _ => ⟨value, rfl, trivial⟩
  | .error (.fault (.outage _ _)) =>
    refine discloses_bind (discloses_ask (counts _) rfl) fun _ => discloses_pure ?_
    intro some
    cases some
  | .error .silence | .error (.fault (.refused _)) | .error (.fault (.dimension _))
  | .error (.fault (.configuration _)) | .error (.fault (.schema _))
  | .error (.fault (.broken _)) => exact discloses_throw _

/-- A part that is loaded later is there only if nothing failed in loading it, and what was intact
before goes on to be. -/
theorem discloses_part {part : Part} {task : Task C R α} {before : Prop}
    (strict : task.IsStrict fun _ => True) (obeys : task.Obeys contract) :
    (attempt part task).Discloses contract spares (fun found => found.isSome = true ∧ before)
      before := by
  have alone : (attempt part task).Discloses contract spares (fun found => found.isSome = true)
      True := discloses_attempt counts (discloses_of_strict strict obeys)
  refine Program.discloses_mono (Program.discloses_frame alone) And.left ?_
  rintro result ⟨found, ended, some, whole⟩
  exact ⟨⟨found, ended, some⟩, whole⟩

/-- Where only a spared operation is used, a part that is lost discloses nothing. -/
theorem discloses_spared {part : Part} {name : String} {task : Task C R α}
    (strict : task.IsStrict (· = name)) (spared : spares name) (obeys : task.Obeys contract) :
    (attempt part task).Discloses contract spares (fun _ => True) True := by
  have bounded : (bounded part.name task).run.Discloses contract spares (fun _ => True) True := by
    refine Program.discloses_bind (Program.discloses_of_spared strict obeys
      fun other same => same ▸ spared) fun result => ?_
    match result with
    | .ok _ | .error .silence | .error (.fault _) => exact fun _ => trivial
  refine Program.discloses_bind bounded fun result => ?_
  match result with
  | .error (.fault (.outage _ _)) =>
    exact discloses_bind (discloses_ask (counts _) rfl) fun _ => discloses_pure fun _ => trivial
  | .ok _ | .error .silence | .error (.fault (.refused _)) | .error (.fault (.dimension _))
  | .error (.fault (.configuration _)) | .error (.fault (.schema _))
  | .error (.fault (.broken _)) => exact fun _ => trivial

omit counts in
theorem discloses_both {first : Task C R α} {second : Task C R β} {better : β → Prop}
    (left : first.Discloses contract spares good True)
    (right : second.Discloses contract spares better True) :
    (both first second).Discloses contract spares (fun pair => good pair.1 ∧ better pair.2)
      True := by
  refine Program.discloses_bind left fun a => ?_
  refine Program.discloses_bind (Program.discloses_mono (Program.discloses_frame right) And.left
    fun _ => id) fun b => ?_
  rintro ⟨pair, same, holds⟩
  cases a with
  | error stop => cases same
  | ok a =>
    cases b with
    | error stop => cases same
    | ok b =>
      cases same
      exact ⟨⟨b, rfl, holds.2⟩, a, rfl, holds.1⟩

end Task

end PersonalFeed
