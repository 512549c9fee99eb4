import PersonalFeed.Proofs.Program.Contract
import PersonalFeed.Service.Feed

/-!
Tasks side by side. Their calls may be made in turns, in any order that keeps the order of each, and
whatever both meet by contract is met by each such interleaving. A feed may load its context in any
of these ways.
-/

set_option autoImplicit false

namespace PersonalFeed

variable {C R α β : Type}

namespace Program

/-- The calls of two programs made in turns. Whose turn it is may depend on all earlier replies. -/
inductive Interleaves :
    Program C R α → Program C R β → Program C R (α × β) → Prop
  | done (a : α) (b : β) : Interleaves (.done a) (.done b) (.done (a, b))
  | first {call : Call C R} {next : call.Reply → Program C R α} {second : Program C R β}
      {rest : call.Reply → Program C R (α × β)}
      (later : ∀ reply, Interleaves (next reply) second (rest reply)) :
      Interleaves (.ask call next) second (.ask call rest)
  | second {call : Call C R} {first : Program C R α} {next : call.Reply → Program C R β}
      {rest : call.Reply → Program C R (α × β)}
      (later : ∀ reply, Interleaves first (next reply) (rest reply)) :
      Interleaves first (.ask call next) (.ask call rest)

theorem interleaves_sequence (first : Program C R α) (second : Program C R β) :
    Interleaves first second (first >>= fun a => second >>= fun b => .done (a, b)) := by
  induction first with
  | done a =>
    rw [bind_done]
    induction second with
    | done b => exact .done a b
    | ask call next ih => exact .second ih
  | ask call next ih => exact .first ih

theorem meets_interleaves {contract : Contract C R} {first : Program C R α}
    {second : Program C R β} {program : Program C R (α × β)} {P : α → Prop} {Q : β → Prop}
    (turns : Interleaves first second program) (left : first.Meets contract P)
    (right : second.Meets contract Q) :
    program.Meets contract fun pair => P pair.1 ∧ Q pair.2 := by
  induction turns with
  | done a b => exact ⟨left, right⟩
  | first _ ih => exact ⟨left.1, fun reply admitted => ih reply (left.2 reply admitted) right⟩
  | second _ ih => exact ⟨right.1, fun reply admitted => ih reply left (right.2 reply admitted)⟩

end Program

namespace Task

def pairOf : Except (Stop R) α × Except (Stop R) β → Except (Stop R) (α × β)
  | (.ok a, .ok b) => .ok (a, b)
  | (.error stop, _) | (.ok _, .error stop) => .error stop

def Beside (first : Task C R α) (second : Task C R β) (task : Task C R (α × β)) : Prop :=
  ∃ program, Program.Interleaves first.run second.run program ∧
    task = ExceptT.mk (program >>= fun ends => .done (pairOf ends))

theorem beside_both (first : Task C R α) (second : Task C R β) :
    Beside first second (both first second) := by
  refine ⟨_, Program.interleaves_sequence _ _, ?_⟩
  rw [both, bind_assoc]
  simp only [bind_assoc, Program.bind_done]
  refine congrArg ExceptT.mk (congrArg (first.run >>= ·) (funext fun a => ?_))
  refine congrArg (second.run >>= ·) (funext fun b => congrArg Program.done ?_)
  cases a <;> cases b <;> rfl

theorem yields_beside {contract : Contract C R} {first : Task C R α} {second : Task C R β}
    {task : Task C R (α × β)} {P : α → Prop} {Q : β → Prop} (turns : Beside first second task)
    (left : first.Yields contract P) (right : second.Yields contract Q) :
    task.Yields contract fun pair => P pair.1 ∧ Q pair.2 := by
  obtain ⟨program, turns, rfl⟩ := turns
  refine Program.meets_bind (Program.meets_interleaves turns left right) ?_
  rintro ⟨a, b⟩ ⟨ha, hb⟩ pair ended
  cases a with
  | error stop => cases ended
  | ok a =>
    cases b with
    | error stop => cases ended
    | ok b =>
      cases ended
      exact ⟨ha a rfl, hb b rfl⟩

end Task

namespace Service

variable [Score R] [Component C R]

/-- A task loads what a request has to know about its reader: six parts side by side. -/
def Gathers (service : Service R) (identity : Text) (context : Task C R (FeedContext R)) : Prop :=
  ∃ six five four three two,
    Task.Beside (Task.attempt .interestVector (service.loadInterest identity)) five six ∧
    Task.Beside (Task.attempt .follows (service.loadFollowing identity)) four five ∧
    Task.Beside (Task.attempt .blocks (service.loadBlocked identity)) three four ∧
    Task.Beside (Task.attempt .seen (service.loadSeen identity)) two three ∧
    Task.Beside (Task.attempt .topics (service.loadTopics identity))
      (Task.attempt .profile (service.loadProfile identity)) two ∧
    context = do
      let (interest, following, blocked, seen, topics, profile) ← six
      return ⟨interest, following, blocked, seen, topics, profile⟩

theorem gathers_loadContext (service : Service R) (identity : Text) :
    service.Gathers identity (loadContext (C := C) service identity) :=
  ⟨_, _, _, _, _, Task.beside_both _ _, Task.beside_both _ _, Task.beside_both _ _,
    Task.beside_both _ _, Task.beside_both _ _, rfl⟩

def computePageBy (load : Text → Task C R (FeedContext R)) (service : Service R)
    (query : FeedQuery R) : Task C R (FeedResponse R × Bool) := do
  let context ← load query.identity
  let own ← service.profileWeights context.profile?
  let weights ← Task.ofRefusal (own.withOverrides query.overrides)
  match context.interest.join with
  | none => return (.empty query.identity, false)
  | some stored =>
    match ← Task.ofExcept (readInterest stored) with
    | none =>
      Task.count (.lost .interestVector)
      return (.empty query.identity, false)
    | some interest => service.computeFrom query context weights interest

def rankFeedBy (load : Text → Task C R (FeedContext R)) (service : Service R)
    (request : FeedRequest R) : Task C R (FeedResponse R) := do
  let query ← Task.ofRefusal (checkFeed service.config request)
  Task.count .feed
  let fingerprint ← Task.ofExcept (Weights.fingerprint query.overrides)
  let key : CacheKey := .page query.identity fingerprint query.pageSize query.cursor
  match ← service.cached key with
  | some value => Task.ofExcept ((FeedResponse.read value).toExcept.mapError Fault.schema)
  | none =>
    let (response, complete) ← computePageBy load service query
    if complete then service.keep key response.toJson
    return response

theorem rankFeedBy_loadContext (service : Service R) :
    rankFeedBy (loadContext (C := C) service) service = service.rankFeed := rfl

/-- A program is a course of a request for a feed: the parts of the context are loaded side by
side, whoever of them is first. -/
def Courses (service : Service R) (request : FeedRequest R)
    (program : Program C R (Except (Stop R) (FeedResponse R))) : Prop :=
  ∃ load, (∀ identity, service.Gathers identity (load identity)) ∧
    program = (rankFeedBy load service request).run

theorem courses_rankFeed (service : Service R) (request : FeedRequest R) :
    service.Courses request (service.rankFeed (C := C) request).run :=
  ⟨_, gathers_loadContext service, by rw [rankFeedBy_loadContext]⟩

end Service

end PersonalFeed
