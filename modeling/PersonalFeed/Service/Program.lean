import PersonalFeed.Cache.Store
import PersonalFeed.Index.Points
import PersonalFeed.Metrics
import PersonalFeed.Store.Query

/-!
Programs over the stores. A program either ends with a value or makes a call and goes on with the
reply, so the order of its calls can be seen, and any handler of calls runs it. The calls of two
programs may be handled in turns.
-/

set_option autoImplicit false

namespace PersonalFeed

/-- How a call to a store ended: with an answer, with a breakdown over what was asked, with a
failure of the store, or not at all. -/
inductive Outcome (α : Type) where
  | answer (value : α)
  | broken (cause : Breakdown)
  | down (reason : String)
  | silent

/-- A call to one of the stores, or a count. -/
inductive Call (C R : Type) where
  | query (query : Query R)
  | search (query : Embedding C) (limit : Int) (exclusion : Exclusion)
  | retrieve (ids : List Text)
  | index (id author : Text) (vector : Embedding C)
  | openIndex
  | read (key : String)
  | write (key : Text) (value : Json R) (lifetime : Int)
  | delete (keys : List String)
  | scan (pattern : String)
  | count (count : Count)

/-- What a call is replied with. A cache that cannot be reached replies that nothing was done. -/
def Call.Reply {C R : Type} : Call C R → Type
  | query q => Outcome q.Answer
  | search _ _ _ => Outcome (List (Hit C R))
  | retrieve _ => Outcome (List (Hit C R))
  | index _ _ _ => Outcome Unit
  | openIndex => Outcome Unit
  | read _ => CacheReply R
  | write _ _ _ => Unit
  | delete _ => Option Nat
  | scan _ => Option (List String)
  | count _ => Unit

/-- A value, or a call and what follows its reply. -/
inductive Program (C R α : Type) where
  | done (value : α)
  | ask (call : Call C R) (next : call.Reply → Program C R α)

namespace Program

variable {C R α β γ σ : Type}

def bind (program : Program C R α) (f : α → Program C R β) : Program C R β :=
  match program with
  | done value => f value
  | ask call next => ask call fun reply => (next reply).bind f

instance : Monad (Program C R) where
  pure := done
  bind := bind

@[simp] theorem pure_eq (value : α) : (pure value : Program C R α) = done value := rfl

@[simp] theorem bind_done (value : α) (f : α → Program C R β) : (done value >>= f) = f value := rfl

@[simp] theorem bind_ask (call : Call C R) (next : call.Reply → Program C R α)
    (f : α → Program C R β) : (ask call next >>= f) = ask call fun reply => next reply >>= f := rfl

theorem bind_pure (program : Program C R α) : program >>= pure = program := by
  induction program with
  | done value => rfl
  | ask call next ih => exact congrArg (ask call) (funext ih)

theorem bind_assoc (program : Program C R α) (f : α → Program C R β) (g : β → Program C R γ) :
    program >>= f >>= g = program >>= fun value => f value >>= g := by
  induction program with
  | done value => rfl
  | ask call next ih => exact congrArg (ask call) (funext ih)

instance : LawfulMonad (Program C R) :=
  LawfulMonad.mk' (Program C R) bind_pure (fun _ _ => rfl) bind_assoc

abbrev Handler (C R σ : Type) := (call : Call C R) → σ → call.Reply × σ

def run (handler : Handler C R σ) : Program C R α → σ → α × σ
  | done value, state => (value, state)
  | ask call next, state =>
    let (reply, state) := handler call state
    (next reply).run handler state

theorem run_bind (handler : Handler C R σ) (program : Program C R α) (f : α → Program C R β)
    (state : σ) :
    (program >>= f).run handler state =
      (f (program.run handler state).1).run handler (program.run handler state).2 := by
  induction program generalizing state with
  | done value => rfl
  | ask call next ih => exact ih _ _

end Program

end PersonalFeed
