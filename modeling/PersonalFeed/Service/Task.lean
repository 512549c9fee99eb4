import PersonalFeed.Service.Program

/-!
Tasks: programs that may stop early. A task stops for a fault, or because a store never replied;
the time limit of a request turns silence into an outage. A request goes on without a part whose
store is out, and counts it as lost.
-/

set_option autoImplicit false

namespace PersonalFeed

inductive Stop (R : Type) where
  | fault (cause : Fault R)
  /-- A store did not reply. -/
  | silence

/-- A program that ends with a value or stops early. -/
abbrev Task (C R α : Type) := ExceptT (Stop R) (Program C R) α

namespace Task

variable {C R α β : Type}

def ask (call : Call C R) : Task C R call.Reply :=
  ExceptT.mk (.ask call fun reply => .done (.ok reply))

def fail (cause : Fault R) : Task C R α := throw (.fault cause)

def ofExcept : Except (Fault R) α → Task C R α
  | .ok value => pure value
  | .error cause => fail cause

def ofBreakdown (result : Except Breakdown α) : Task C R α :=
  ofExcept (result.mapError Fault.broken)

def ofRefusal (result : Except (Refusal R) α) : Task C R α :=
  ofExcept (result.mapError Fault.refused)

def count (count : Count) : Task C R Unit := ask (.count count)

def answer (store : String) : Outcome α → Task C R α
  | .answer value => pure value
  | .broken cause => fail (.broken cause)
  | .down reason => fail (.outage store reason)
  | .silent => throw .silence

def databaseName : String := "tidb"

def indexName : String := "qdrant"

def query (q : Query R) : Task C R q.Answer := do answer databaseName (← ask (.query q))

/-- Give a task the time of a request: silence is an outage under the given name. -/
def bounded (name : String) (task : Task C R α) : Task C R α :=
  ExceptT.mk <| task.run >>= fun result =>
    match result with
    | .error .silence => .done (.error (.fault (.outage name "timed out")))
    | result => .done result

/-- Run a task for a part of a request. An outage loses the part, any other fault stops the
request. -/
def attempt (part : Part) (task : Task C R α) : Task C R (Option α) :=
  ExceptT.mk <| (bounded part.name task).run >>= fun result =>
    match result with
    | .ok value => .done (.ok (some value))
    | .error (.fault (.outage _ _)) =>
      (do count (.lost part); return none : Task C R (Option α)).run
    | .error stop => .done (.error stop)

/-- Two tasks side by side. Both run to their ends, and the first that stopped stops the pair. -/
def both (first : Task C R α) (second : Task C R β) : Task C R (α × β) :=
  ExceptT.mk <| first.run >>= fun a => second.run >>= fun b =>
    .done <|
      match a, b with
      | .ok a, .ok b => .ok (a, b)
      | .error stop, _ => .error stop
      | .ok _, .error stop => .error stop

end Task

end PersonalFeed
