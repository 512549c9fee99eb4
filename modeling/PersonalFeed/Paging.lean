import PersonalFeed.Fault

/-!
Pages of a ranking. A page starts after the item that its cursor names, and the next cursor is the
id of its last item. A cursor that the ranking no longer holds ends the feed.
-/

set_option autoImplicit false

namespace PersonalFeed

structure Page (α : Type) where
  items : List α
  next : Option Text
  hasNext : Bool

namespace Page

variable {α R : Type}

def checkSize (largest : Int) (given : Json R) : Except (Refusal R) Nat :=
  match given with
  | .int n => if n < 1 ∨ largest < n then .error (.pageSizeRange largest n) else .ok n.toNat
  | _ => .error (.pageSizeKind given)

/-- The place where a page ends that starts at a place. A size below zero may lead to a place before
the list, which counts from the end of the list. -/
def stop (length start : Nat) (size : Int) : Nat :=
  let place := start + size
  (if place < 0 then place + length else place).toNat

def startingAt (id : α → Text) (ranked : List α) (start : Nat) (size : Int) : Page α :=
  let items := (ranked.take (stop ranked.length start size)).drop start
  let hasNext : Bool := start + size < ranked.length
  ⟨items, if hasNext then items.getLast?.map id else none, hasNext⟩

/-- The place after the first item with an id, `none` if there is no such item. -/
def after? (id : α → Text) (cursor : Text) (ranked : List α) : Option Nat :=
  (ranked.findIdx? fun item => id item = cursor).map (· + 1)

def slice (id : α → Text) (ranked : List α) (size : Int) (cursor : Option Text) : Page α :=
  match cursor with
  | none => startingAt id ranked 0 size
  | some cursor =>
    match after? id cursor ranked with
    | none => ⟨[], none, false⟩
    | some start => startingAt id ranked start size

/-- The pages that following the cursors visits; `fuel` bounds their number. -/
def walkFrom (id : α → Text) (ranked : List α) (size : Int) :
    Nat → Option Text → List (Page α)
  | 0, _ => []
  | fuel + 1, cursor =>
    let page := slice id ranked size cursor
    page :: if page.hasNext then walkFrom id ranked size fuel page.next else []

def walk (id : α → Text) (ranked : List α) (size : Int) : List (Page α) :=
  walkFrom id ranked size (ranked.length + 2) none

/-- Whether a walk was given up: its last page has a next one. -/
def isUnfinished (pages : List (Page α)) : Bool := pages.getLast?.any (·.hasNext)

end Page

end PersonalFeed
