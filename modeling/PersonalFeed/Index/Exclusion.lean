import PersonalFeed.Json.Members

/-!
Sets of ids and what a search leaves out. A set that was loaded from the cache may hold values that
are no ids: they are no member of anything, but a search that has to leave them out is refused
unless they are in an order and of one kind.
-/

set_option autoImplicit false

namespace PersonalFeed

inductive IdSet where
  | ids (ids : List Text)
  /-- Numbers in their order, or nothing at all; for each whether it is a whole number. -/
  | foreign (areWhole : List Bool)
  /-- Members that have no order, and the ids among them. -/
  | mixed (ids : List Text)
  deriving DecidableEq, Repr

namespace IdSet

def empty : IdSet := ids []

def toList : IdSet → List Text
  | ids texts => texts
  | foreign _ => []
  | mixed texts => texts

variable {R : Type}

def isWhole : Json R → Bool
  | .int _ => true
  | _ => false

variable [Numeral R]

def ofMembers (members : List (Json R)) : IdSet :=
  if members.all Json.isText then ids (members.filterMap Json.text?)
  else
    match Json.sortMembers? members with
    | some sorted => foreign (sorted.map isWhole)
    | none => mixed (members.filterMap Json.text?)

def ofJson (value : Json R) : Except Breakdown IdSet := value.members.map ofMembers

end IdSet

def sortedIds (ids : List Text) : List Text := (ids.mergeSort fun a b => a ≤ b).eraseDups

/-- What a search leaves out: the posts of some authors, and some posts. -/
structure Exclusion where
  authors : List Text
  posts : List Text
  deriving DecidableEq, Repr

namespace Exclusion

/-- The conditions that no result meets, each a field with the values it must not have. A side
without values is no condition. -/
def conditions (exclusion : Exclusion) : List (String × List Text) :=
  [("author_id", sortedIds exclusion.authors), ("id", sortedIds exclusion.posts)].filter
    fun condition => !condition.2.isEmpty

def excludes (exclusion : Exclusion) (post author : Text) : Bool :=
  exclusion.authors.contains author || exclusion.posts.contains post

open Schema

def violationsOf (kind : Text) (problem : Problem) (misfits : List Bool) : List Violation :=
  misfits.zipIdx.filterMap fun (isMisfit, place) =>
    if isMisfit then some ⟨[.field "any", .field kind, .item place], problem⟩ else none

/-- What is wrong with values none of which is a text: a violation for each of them, then one for
each that is no whole number. -/
def violations (areWhole : List Bool) : List Violation :=
  violationsOf "list[str]" .notString (areWhole.map fun _ => true) ++
    violationsOf "list[int]" .notInt (areWhole.map not)

def ofSet {R : Type} (authors : IdSet) (posts : List Text) : Except (Fault R) Exclusion :=
  match authors with
  | .ids ids => .ok ⟨ids, posts⟩
  | .foreign areWhole =>
    if areWhole.all id then .ok ⟨[], posts⟩ else .error (.schema (violations areWhole))
  | .mixed _ => .error (.broken .wrongKind)

end Exclusion

end PersonalFeed
