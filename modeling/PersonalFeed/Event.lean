import PersonalFeed.Cache.Key
import PersonalFeed.Schema.Reader

/-!
Events: changes elsewhere that make cached values stale, and the cached values each of them drops.
-/

set_option autoImplicit false

namespace PersonalFeed

inductive EventKind where
  | followChanged
  | blockChanged
  | postCreated
  | privacyChanged
  | postSaved
  | seenRecorded
  deriving DecidableEq, Repr

namespace EventKind

def all : List EventKind :=
  [followChanged, blockChanged, postCreated, privacyChanged, postSaved, seenRecorded]

def name : EventKind → String
  | followChanged => "follow_changed"
  | blockChanged => "block_changed"
  | postCreated => "post_created"
  | privacyChanged => "privacy_changed"
  | postSaved => "post_saved"
  | seenRecorded => "seen_recorded"

def ofName? (name : Text) : Option EventKind := all.find? (·.name = name)

end EventKind

structure Event where
  kind : EventKind
  actor : Text
  target : Option Text
  post : Option Text
  deriving DecidableEq, Repr

/-- A part of the cache that an event drops. -/
inductive Deletion where
  | keys (keys : List CacheKey)
  | pages (identity : Option Text)
  | similar (requester : Option Text)
  deriving DecidableEq, Repr

namespace Event

variable {R : Type}

open Schema

def readKind : Reader R EventKind
  | .string s =>
    match EventKind.ofName? s with
    | some kind => .valid kind
    | none => .problem (if s.isWhole then .notListed else .brokenText)
  | _ => .problem .notListed

/-- An event out of a record; `kind` is the problem of what is none. Other fields are ignored. -/
def readAs (kind : Problem) : Reader R Event :=
  record kind fun fields =>
    Event.mk
      <$> required fields "type" readKind
      <*> required fields "actor_id" text
      <*> defaulted fields "target_id" none (nullable text)
      <*> defaulted fields "post_id" none (nullable text)

def read : Reader R Event := readAs .notRecord

def toJson (event : Event) : Json R :=
  .object [
    ("type", .string event.kind.name), ("actor_id", .string event.actor),
    ("target_id", .ofOption .string event.target), ("post_id", .ofOption .string event.post)]

def parties (event : Event) : List Text :=
  match event.target with
  | none => [event.actor]
  | some target => if target.isEmpty then [event.actor] else [event.actor, target]

/-- What an event drops, in this order: a follow drops the actor's follow set, pages and similar
lists; a block the block sets, pages and similar lists of both sides; a new post its author's
pages; a change of privacy all pages and similar lists; a save the topics and pages of the saver;
an impression the seen records and pages of the viewer. -/
def deletions (event : Event) : List Deletion :=
  let actor := event.actor
  match event.kind with
  | .followChanged => [.keys [.follows actor], .pages (some actor), .similar (some actor)]
  | .blockChanged =>
    .keys (event.parties.map .blocks) ::
      event.parties.flatMap fun party => [.pages (some party), .similar (some party)]
  | .postCreated => [.pages (some actor)]
  | .privacyChanged => [.pages none, .similar none]
  | .postSaved => [.keys [.topics actor], .pages (some actor)]
  | .seenRecorded => [.keys [.seen actor], .pages (some actor)]

end Event

end PersonalFeed
