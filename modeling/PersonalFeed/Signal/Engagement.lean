import PersonalFeed.Json.Numeric
import PersonalFeed.Post

/-!
Engagement: how often a post was saved and commented on. Each count is divided by its cap and cut
off at one, so that one viral counter cannot dominate.
-/

set_option autoImplicit false

namespace PersonalFeed

open Scalar

structure EngagementCaps (R : Type) where
  saveCap : Int
  commentCap : Int
  saveWeight : R
  commentWeight : R

section

variable {C R : Type} [Scalar R]

/-- A count as a share of its cap, between zero and one. A negative count is none. -/
def cappedShare (count cap : Int) : R := smaller (quotient (max count 0) cap) one

def engagement (caps : EngagementCaps R) (post : Post C) : R :=
  cappedShare post.saves caps.saveCap * caps.saveWeight +
    cappedShare post.comments caps.commentCap * caps.commentWeight

end

structure EngagementRecord (R : Type) where
  saves : Json R
  comments : Json R
  saveCap : Json R
  commentCap : Json R
  saveWeight : Json R
  commentWeight : Json R

namespace EngagementRecord

variable {R : Type} [Numeral R]

def whole? : Json R → Option Int
  | .int n => some n
  | .bool b => some b.toInt
  | _ => none

def countOf : Json R → Except Breakdown (Json R)
  | .int n => .ok (.int (max n 0))
  | .bool b => .ok (.int b.toInt)
  | .real x => .ok (if isNegative x then .int 0 else .real x)
  | .null | .string _ | .array _ | .object _ => .error .wrongKind

/-- A recorded count as a share of its cap. Whole numbers are divided exactly. -/
def share (count cap : Json R) : Except Breakdown R := do
  let count ← countOf count
  match whole? count, whole? cap with
  | some n, some d =>
    if d = 0 then .error .divisionByZero
    else
      let x : R := quotient n d
      -- Too large a quotient of whole numbers is an error, while one of other numbers is infinite.
      if isFinite x then return smaller x one else .error .outOfRange
  | _, _ =>
    let n : R ← count.number
    let d : R ← cap.number
    if Scalar.eq d zero then .error .divisionByZero else return smaller (n / d) one

def engagement (record : EngagementRecord R) : Except Breakdown R := do
  let saves ← share record.saves record.saveCap
  let comments ← share record.comments record.commentCap
  let saved := saves * (← record.saveWeight.number)
  let commented := comments * (← record.commentWeight.number)
  return saved + commented

end EngagementRecord

end PersonalFeed
