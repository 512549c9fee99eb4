import PersonalFeed.Fault
import PersonalFeed.Time.Iso

/-!
Marks of posts that were shown to a reader, by post. They are cached as a record of written moments.
-/

set_option autoImplicit false

namespace PersonalFeed

def retentionStart (now : Timestamp) (days : Int) : Except Breakdown Timestamp :=
  match now.daysBefore? days with
  | some start => .ok start
  | none => .error .outOfRange

/-- When posts were shown. A cached moment may lack its zone, and then it cannot be compared. -/
abbrev SeenMap := List (Text × Option Timestamp)

namespace SeenMap

variable {R : Type}

def momentOfJson : Json R → Except Breakdown (Option Timestamp)
  | .string s =>
    match Timestamp.parseText? s with
    | some (clock, zone) => .ok (zone.map fun offset => Timestamp.ofClock clock offset)
    | none => .error .unreadable
  | _ => .error .wrongKind

def ofJson : Json R → Except Breakdown SeenMap
  | .object fields => fields.mapM fun (post, moment) => return (post, ← momentOfJson moment)
  | _ => .error .noMember

def toJson (marks : List (Text × Timestamp)) : Json R :=
  .object (marks.map fun (post, moment) => (post, .string moment.isoText))

def ofMarks (marks : List (Text × Timestamp)) : SeenMap :=
  marks.map fun (post, moment) => (post, some moment)

def find? (seen : SeenMap) (post : Text) : Option (Option Timestamp) :=
  (List.find? (fun mark => mark.1 = post) seen).map (·.2)

end SeenMap

end PersonalFeed
