import PersonalFeed.Store.Row

/-!
The tables of the relational store. Every table has a key, and adding a row replaces the row of the
same key in its place. A row that breaks a rule of its table is refused. Moments are stored without
their zones.
-/

set_option autoImplicit false

namespace PersonalFeed

/-- The rows of all tables, in the order they were first added. -/
structure Tables (R : Type) where
  users : List (UserRow R)
  /-- Pairs of a follower and the one that is followed. -/
  follows : List (Text × Text)
  /-- Pairs of the one who blocks and the one who is blocked. -/
  blocks : List (Text × Text)
  posts : List (PostRow R)
  saves : List Mark
  seen : List Mark

def upsert {α κ : Type} [DecidableEq κ] (key : α → κ) (row : α) : List α → List α
  | [] => [row]
  | other :: rest => if key other = key row then row :: rest else other :: upsert key row rest

theorem mem_upsert {α κ : Type} [DecidableEq κ] (key : α → κ) (row other : α) (rows : List α)
    (member : other ∈ upsert key row rows) : other = row ∨ other ∈ rows := by
  induction rows with
  | nil => simpa [upsert] using member
  | cons head rest ih =>
    rw [upsert] at member
    split at member
    · rcases List.mem_cons.1 member with rfl | member
      · exact .inl rfl
      · exact .inr (List.mem_cons_of_mem _ member)
    · rcases List.mem_cons.1 member with rfl | member
      · exact .inr List.mem_cons_self
      · exact (ih member).imp_right (List.mem_cons_of_mem _)

def newestFirst {α : Type} (moment : α → Timestamp) (rows : List α) : List α :=
  rows.mergeSort fun a b => (moment b).micros ≤ (moment a).micros

def limited {α : Type} (limit : Int) (rows : List α) : List α :=
  if limit < 0 then rows else rows.take limit.toNat

namespace Tables

variable {R : Type}

def empty : Tables R := ⟨[], [], [], [], [], []⟩

def user? (tables : Tables R) (id : Text) : Option (UserRow R) :=
  tables.users.find? (·.id = id)

def post? (tables : Tables R) (id : Text) : Option (PostRow R) :=
  tables.posts.find? (·.id = id)

def refusing (flaw : Option Breakdown) (added : Tables R) : Except Breakdown (Tables R) :=
  match flaw with
  | some cause => .error cause
  | none => .ok added

def hasName (tables : Tables R) (row : UserRow R) : Bool :=
  tables.users.any fun other => other.id ≠ row.id && other.username = row.username

/-- Add a person. No two have the same name. -/
def addUser (row : UserRow R) (tables : Tables R) : Except Breakdown (Tables R) :=
  let flaw := row.flaw?.or (if tables.hasName row then some .conflicting else none)
  refusing flaw { tables with users := upsert UserRow.id row tables.users }

def addPost (row : PostRow R) (tables : Tables R) : Except Breakdown (Tables R) :=
  let row := { row with createdAt := row.createdAt.withoutZone }
  refusing row.flaw? { tables with posts := upsert PostRow.id row tables.posts }

def addFollow (edge : Text × Text) (tables : Tables R) : Except Breakdown (Tables R) :=
  refusing (columnFlaw? [edge.1, edge.2] [])
    { tables with follows := upsert id edge tables.follows }

def addBlock (edge : Text × Text) (tables : Tables R) : Except Breakdown (Tables R) :=
  refusing (columnFlaw? [edge.1, edge.2] []) { tables with blocks := upsert id edge tables.blocks }

def addSave (mark : Mark) (tables : Tables R) : Except Breakdown (Tables R) :=
  let mark := { mark with moment := mark.moment.withoutZone }
  refusing mark.flaw? { tables with saves := upsert Mark.key mark tables.saves }

def addSeen (mark : Mark) (tables : Tables R) : Except Breakdown (Tables R) :=
  let mark := { mark with moment := mark.moment.withoutZone }
  refusing mark.flaw? { tables with seen := upsert Mark.key mark tables.seen }

def removeUser (id : Text) (tables : Tables R) : Tables R :=
  { tables with users := tables.users.filter (·.id ≠ id) }

def removePost (id : Text) (tables : Tables R) : Tables R :=
  { tables with posts := tables.posts.filter (·.id ≠ id) }

def removeFollow (edge : Text × Text) (tables : Tables R) : Tables R :=
  { tables with follows := tables.follows.filter (· ≠ edge) }

def removeBlock (edge : Text × Text) (tables : Tables R) : Tables R :=
  { tables with blocks := tables.blocks.filter (· ≠ edge) }

def removeSave (key : Text × Text) (tables : Tables R) : Tables R :=
  { tables with saves := tables.saves.filter (·.key ≠ key) }

def removeSeen (key : Text × Text) (tables : Tables R) : Tables R :=
  { tables with seen := tables.seen.filter (·.key ≠ key) }

def blocked (tables : Tables R) (identity : Text) : List Text :=
  let edges := tables.blocks.filter fun edge => edge.1 = identity || edge.2 = identity
  ((edges.map fun edge => if edge.1 = identity then edge.2 else edge.1).filter
    (· ≠ identity)).eraseDups

def following (tables : Tables R) (identity : Text) : List Text :=
  ((tables.follows.filter (·.1 = identity)).map (·.2)).eraseDups

/-- The saves of a person from the latest to the earliest, of those of one moment the one that was
added last first. -/
def latestSaves (tables : Tables R) (identity : Text) : List Mark :=
  newestFirst Mark.moment (tables.saves.filter (·.user = identity)).reverse

def recentSaves (tables : Tables R) (identity : Text) (limit : Int) : List (PostRow R) :=
  limited limit ((tables.latestSaves identity).filterMap fun mark => tables.post? mark.post)

def interestSources (tables : Tables R) (identity : Text) (limit : Int) : List Text :=
  let saved := limited limit (tables.latestSaves identity)
  let written := newestFirst PostRow.createdAt (tables.posts.filter (·.author = identity))
  (saved.map (·.post) ++ (limited limit written).map (·.id)).eraseDups

def seenSince (tables : Tables R) (identity : Text) (since : Timestamp) :
    List (Text × Timestamp) :=
  let start := since.withoutZone.micros
  (tables.seen.filter fun mark => mark.user = identity && start ≤ mark.moment.micros).map
    fun mark => (mark.post, mark.moment)

def recordSeen (tables : Tables R) (identity : Text) (posts : List Text) (now : Timestamp) :
    Except Breakdown (Tables R) :=
  posts.foldlM (fun tables post => tables.addSeen ⟨identity, post, now⟩) tables

def purgeSeen (tables : Tables R) (before : Timestamp) : Nat × Tables R :=
  let start := before.withoutZone.micros
  let expired (mark : Mark) : Bool := mark.moment.micros < start
  (tables.seen.countP expired, { tables with seen := tables.seen.filter fun mark => !expired mark })

/-- Replace the interest vector of a person; without a row nothing changes. -/
def setInterest (tables : Tables R) (identity : Text) (vector : List R) : Tables R :=
  { tables with
    users := tables.users.map fun user =>
      if user.id = identity then { user with interest := some (vector.map .real) } else user }

end Tables

end PersonalFeed
