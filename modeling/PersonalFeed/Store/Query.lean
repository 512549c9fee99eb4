import PersonalFeed.Store.Tables

/-!
Queries to the relational store, each with the type of its answer and the name it is reported
under.
-/

set_option autoImplicit false

namespace PersonalFeed

/-- A question to the store, or an order to change it. -/
inductive Query (R : Type) where
  | interestVector (identity : Text)
  | setInterestVector (identity : Text) (vector : List R)
  | profile (identity : Text)
  | following (identity : Text)
  | blocked (identity : Text)
  | authors (ids : List Text)
  | content (ids : List Text)
  | recentSaves (identity : Text) (limit : Int)
  | interestSources (identity : Text) (limit : Int)
  | seen (identity : Text) (since : Timestamp)
  | recordSeen (identity : Text) (posts : List Text) (now : Timestamp)
  | purgeSeen (before : Timestamp)

namespace Query

variable {R : Type}

def Answer : Query R → Type
  | interestVector _ => Option (List (Json R))
  | setInterestVector _ _ => Unit
  | profile _ => Option (Profile R)
  | following _ => List Text
  | blocked _ => List Text
  | authors _ => List Author
  | content _ => List (PostRow R)
  | recentSaves _ _ => List (PostRow R)
  | interestSources _ _ => List Text
  | seen _ _ => List (Text × Timestamp)
  | recordSeen _ _ _ => Unit
  | purgeSeen _ => Nat

def name : Query R → String
  | interestVector _ => "interest vector lookup"
  | setInterestVector _ _ => "interest vector update"
  | profile _ => "profile lookup"
  | following _ => "follow lookup"
  | blocked _ => "block lookup"
  | authors _ => "author lookup"
  | content _ => "content fetch"
  | recentSaves _ _ => "recent saves lookup"
  | interestSources _ _ => "interest source lookup"
  | seen _ _ => "seen lookup"
  | recordSeen _ _ _ => "seen write"
  | purgeSeen _ => "seen purge"

/-- Why the store cannot be asked: it takes texts that have a form in bytes, and limits of 64
bits. -/
def flaw? : Query R → Option Breakdown
  | interestVector identity => columnFlaw? [identity] []
  | setInterestVector identity _ => columnFlaw? [identity] []
  | profile identity => columnFlaw? [identity] []
  | following identity => columnFlaw? [identity] []
  | blocked identity => columnFlaw? [identity] []
  | authors ids => columnFlaw? ids []
  | content ids => columnFlaw? ids []
  | recentSaves identity limit => columnFlaw? [identity] [limit]
  | interestSources identity limit => columnFlaw? [identity] [limit]
  | seen identity _ => columnFlaw? [identity] []
  | recordSeen identity posts _ => columnFlaw? (identity :: posts) []
  | purgeSeen _ => none

def answer [Scalar R] (tables : Tables R) :
    (query : Query R) → Except Breakdown (query.Answer × Tables R)
  | interestVector identity => .ok ((tables.user? identity).bind UserRow.interestVector, tables)
  | setInterestVector identity vector => .ok ((), tables.setInterest identity vector)
  | profile identity => .ok ((tables.user? identity).map UserRow.profile, tables)
  | following identity => .ok (tables.following identity, tables)
  | blocked identity => .ok (tables.blocked identity, tables)
  | authors ids =>
    .ok ((tables.users.filter fun user => ids.contains user.id).map UserRow.author, tables)
  | content ids => .ok (tables.posts.filter fun post => ids.contains post.id, tables)
  | recentSaves identity limit => .ok (tables.recentSaves identity limit, tables)
  | interestSources identity limit => .ok (tables.interestSources identity limit, tables)
  | seen identity since => .ok (tables.seenSince identity since, tables)
  | recordSeen identity posts now => (tables.recordSeen identity posts now).map fun t => ((), t)
  | purgeSeen before => .ok (tables.purgeSeen before)

def run [Scalar R] (tables : Tables R) (query : Query R) :
    Except Breakdown (query.Answer × Tables R) :=
  match query.flaw? with
  | some cause => .error cause
  | none => query.answer tables

end Query

end PersonalFeed
