import PersonalFeed.Json.Basic
import PersonalFeed.Schema.Violation

/-!
Readers of records. Every field is read, so a record that does not fit reports all its violations
in the order of its fields.
-/

set_option autoImplicit false

namespace PersonalFeed.Schema

/-- A value, or everything that is wrong with it. -/
inductive Checked (α : Type) where
  | valid (value : α)
  | invalid (violations : List Violation)

namespace Checked

variable {α β : Type}

def apply (f : Checked (α → β)) (x : Checked α) : Checked β :=
  match f, x with
  | .valid f, .valid x => .valid (f x)
  | .valid _, .invalid violations => .invalid violations
  | .invalid violations, .valid _ => .invalid violations
  | .invalid first, .invalid second => .invalid (first ++ second)

instance : Applicative Checked where
  pure := .valid
  seq f x := apply f (x ())

def problem (kind : Problem) : Checked α := .invalid [⟨[], kind⟩]

def within (step : Step) : Checked α → Checked α
  | .valid value => .valid value
  | .invalid violations => .invalid (violations.map (Violation.within step))

def andThen (f : α → Checked β) : Checked α → Checked β
  | .valid value => f value
  | .invalid violations => .invalid violations

def toExcept : Checked α → Except (List Violation) α
  | .valid value => .ok value
  | .invalid violations => .error violations

end Checked

variable {α R : Type}

abbrev Reader (R α : Type) := Json R → Checked α

def required (fields : List (Text × Json R)) (name : Text) (read : Reader R α) : Checked α :=
  match Json.find? name fields with
  | some value => (read value).within (.field name)
  | none => (Checked.problem .missing).within (.field name)

def defaulted (fields : List (Text × Json R)) (name : Text) (default : α)
    (read : Reader R α) : Checked α :=
  match Json.find? name fields with
  | some value => (read value).within (.field name)
  | none => .valid default

def nullable (read : Reader R α) : Reader R (Option α)
  | .null => .valid none
  | value => some <$> read value

def text : Reader R Text
  | .string s => .valid s
  | _ => .problem .notString

def itemsFrom (read : Reader R α) (index : Nat) : List (Json R) → Checked (List α)
  | [] => .valid []
  | item :: rest =>
    List.cons <$> (read item).within (.item index) <*> itemsFrom read (index + 1) rest

def list (read : Reader R α) : Reader R (List α)
  | .array items => itemsFrom read 0 items
  | _ => .problem .notList

/-- A record; `kind` is the problem of what is none. -/
def record (kind : Problem) (read : List (Text × Json R) → Checked α) : Reader R α
  | .object fields => read fields
  | _ => .problem kind

end PersonalFeed.Schema
