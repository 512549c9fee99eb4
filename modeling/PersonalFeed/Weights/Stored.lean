import PersonalFeed.Json.Members
import PersonalFeed.Weights.Basic

/-!
Weights stored with a profile. They must name all five signals and nothing else. A stored value may
be of any kind: what is no collection of names is a breakdown, any other misfit a flaw.
-/

set_option autoImplicit false

namespace PersonalFeed.Weights

variable {R : Type} [Numeral R]

def names : List Text := Signal.all.map (·.name)

def missing (members : List (Json R)) : List Text :=
  (names.filter fun name => !(members.filterMap Json.text?).contains name).mergeSort
    fun a b => a ≤ b

def unknown (members : List (Json R)) : List (Json R) :=
  members.filter fun member => !(member.text?.any names.contains)

def ofStored (stored : Json R) : Except (Fault R) (Weights R) := do
  let members ← stored.members.mapError Fault.broken
  let missing := missing members
  let unknown := unknown members
  if missing.isEmpty ∧ unknown.isEmpty then
    match stored with
    | .object fields =>
      (check fun signal => (Json.find? signal.name fields).getD .null).mapError flawFault
    | _ => .error (.broken .wrongKind)
  else
    -- The report lists the unknown names in order, and not all kinds of names can be compared.
    match Json.sortMembers? unknown with
    | some unknown => .error (.configuration (.weights (.names missing unknown)))
    | none => .error (.broken .wrongKind)

end PersonalFeed.Weights
