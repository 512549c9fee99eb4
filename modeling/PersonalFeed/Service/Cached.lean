import PersonalFeed.Cache.Key
import PersonalFeed.Json.Writer
import PersonalFeed.Media
import PersonalFeed.Message
import PersonalFeed.Service.Task
import PersonalFeed.Settings.Config

/-!
The cache as the service uses it. A look-up that fails is a miss, an order that fails is nothing,
and a pattern is dropped in batches of the keys that match it. A key that has no form in bytes is a
breakdown.
-/

set_option autoImplicit false

namespace PersonalFeed

/-- A service at a moment: its configuration, the root of its cache keys and its signer of media. -/
structure Service (R : Type) where
  config : Config R
  root : Text
  sign : Option MediaSigner
  now : Timestamp

def batchSize : Nat := 500

/-- The keys in batches; `fuel` bounds their number. -/
def batchesWithin : Nat → List String → List (List String)
  | 0, _ => []
  | fuel + 1, keys =>
    if keys.isEmpty then [] else keys.take batchSize :: batchesWithin fuel (keys.drop batchSize)

def batches (keys : List String) : List (List String) := batchesWithin keys.length keys

def Task.encoded {C R : Type} (text : Text) : Task C R String :=
  match text.toString? with
  | some string => pure string
  | none => fail (.broken .unencodable)

namespace Service

variable {C R : Type}

def key (service : Service R) (key : CacheKey) : Text := key.text service.root

def countLookup (service : Service R) (key : Text) (result : LookupResult) : Task C R Unit :=
  Task.count (.lookup (CacheKey.artifactName service.root key) result)

/-- The value under a key. An entry that cannot be read is none, and so is one of nothing at all. -/
def lookUp [Numeral R] (service : Service R) (key : Text) : Task C R (Option (Json R)) := do
  match ← Task.ask (.read (← Task.encoded key)) with
  | .off => service.countLookup key .error; return none
  | .absent => service.countLookup key .miss; return none
  | .found entry =>
    match entry.decode with
    | .error flaw =>
      match flaw.breakdown? with
      | some cause => Task.fail (.broken cause)
      | none => service.countLookup key .error; return none
    | .ok value =>
      -- Nothing at all can be stored as well. It counts as a hit, but is loaded again.
      service.countLookup key .hit
      match value with
      | .null => return none
      | value => return some value

def cached [Numeral R] (service : Service R) (key : CacheKey) : Task C R (Option (Json R)) :=
  service.lookUp (service.key key)

def store (key : Text) (value : Json R) (lifetime : Int) : Task C R Unit := do
  Task.ask (.write key value lifetime)
  let _ ← Task.encoded (C := C) (R := R) key

def keep (service : Service R) (key : CacheKey) (value : Json R) : Task C R Unit :=
  store (service.key key) value (service.config.lifetimes.get key.artifact)

def drop (keys : List Text) : Task C R Unit := do
  let keys ← keys.mapM Task.encoded
  unless keys.isEmpty do
    let _ ← Task.ask (.delete keys)

def dropBatches : List (List String) → Task C R Nat
  | [] => return 0
  | batch :: rest => do
    match ← Task.ask (.delete batch) with
    | none => return 0
    | some count => return count + (← dropBatches rest)

def dropMatching (pattern : Text) : Task C R Nat := do
  match ← Task.ask (.scan (← Task.encoded pattern)) with
  | none => return 0
  | some keys => dropBatches (batches keys)

def dropPages (service : Service R) (identity : Option Text) : Task C R Nat :=
  dropMatching (CacheKey.pagesPattern service.root identity)

def dropSimilar (service : Service R) (requester : Option Text) : Task C R Nat :=
  dropMatching (CacheKey.similarPattern service.root requester)

end Service

end PersonalFeed
