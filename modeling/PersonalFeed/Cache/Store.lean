import PersonalFeed.Fault
import PersonalFeed.Json.Reader
import PersonalFeed.Number.Scalar
import PersonalFeed.Text.Glob

/-!
The cache server: entries by key, and the lifetime that was last asked for each key. What the
service stores is a document; anything else is a text that has to be read when it is looked up.
While the cache cannot be reached it keeps its entries. Keys are bytes to the server, so a key that
has no form in bytes is never stored, though its lifetime is noted like that of every order that is
refused.
-/

set_option autoImplicit false

namespace PersonalFeed

inductive CacheEntry (R : Type) where
  | document (value : Json R)
  | text (written : String)

inductive CacheReply (R : Type) where
  /-- The cache cannot be reached. -/
  | off
  | absent
  | found (entry : CacheEntry R)

def CacheEntry.decode {R : Type} [Numeral R] : CacheEntry R → Except Json.ReadError (Json R)
  | .document value => .ok value
  | .text written => Json.parseString written

structure CacheStore (R : Type) where
  entries : List (String × CacheEntry R)
  /-- Seconds that were last asked for each key, none where no lifetime was given. -/
  lifetimes : List (Text × Option Int)
  isOn : Bool

namespace CacheStore

variable {R : Type}

def empty : CacheStore R := ⟨[], [], true⟩

def assign {κ α : Type} [DecidableEq κ] (key : κ) (value : α) : List (κ × α) → List (κ × α)
  | [] => [(key, value)]
  | (other, old) :: rest =>
    if other = key then (key, value) :: rest else (other, old) :: assign key value rest

def keys (store : CacheStore R) : List String := store.entries.map (·.1)

def entry? (store : CacheStore R) (key : String) : Option (CacheEntry R) :=
  (store.entries.find? (·.1 = key)).map (·.2)

def note (store : CacheStore R) (key : Text) (lifetime : Option Int) : CacheStore R :=
  { store with lifetimes := assign key lifetime store.lifetimes }

def insert (store : CacheStore R) (key : String) (entry : CacheEntry R) : CacheStore R :=
  { store with entries := assign key entry store.entries }

def read (store : CacheStore R) (key : String) : CacheReply R :=
  if store.isOn then
    match store.entry? key with
    | some entry => .found entry
    | none => .absent
  else .off

/-- Whether the server takes a lifetime: some time, but not beyond 64 bits of milliseconds. -/
def isLifetime (seconds : Int) : Bool := 0 < seconds && Number.isWord (seconds * 1000)

/-- Store a document for some seconds. A lifetime that is not taken is refused, like any order to a
cache that cannot be reached. -/
def write (store : CacheStore R) (key : Text) (value : Json R) (lifetime : Int) : CacheStore R :=
  let noted := store.note key (some lifetime)
  match key.toString? with
  | some key =>
    if store.isOn ∧ isLifetime lifetime then noted.insert key (.document value) else noted
  | none => noted

def place (store : CacheStore R) (key text : Text) : Except Breakdown Unit × CacheStore R :=
  let noted := store.note key none
  match key.toString?, text.toString? with
  | some key, some text =>
    if store.isOn then (.ok (), noted.insert key (.text text)) else (.error .unreachable, noted)
  | _, _ => (.error .unencodable, noted)

def listKeys (store : CacheStore R) : Except Breakdown (List String) :=
  if store.isOn then .ok store.keys else .error .unreachable

def delete (store : CacheStore R) (keys : List String) : Option Nat × CacheStore R :=
  if store.isOn then
    (some (store.entries.countP fun entry => keys.contains entry.1),
      { store with entries := store.entries.filter fun entry => !keys.contains entry.1 })
  else (none, store)

def scan (store : CacheStore R) (pattern : String) : Option (List String) :=
  if store.isOn then some (store.keys.filter (Glob.selects pattern)) else none

end CacheStore

end PersonalFeed
