import PersonalFeed.Seen
import PersonalFeed.Service.Cached
import PersonalFeed.Topic
import PersonalFeed.Visibility
import PersonalFeed.Weights.Stored

/-!
What a request has to know about a person, each part out of the cache or, on a miss, out of the
store and then into the cache. Sets are cached as sorted lists, marks as a record of written
moments, and a profile as a record that says whether the person exists.
-/

set_option autoImplicit false

namespace PersonalFeed

namespace Profile

variable {R : Type}

def ofJson [Scalar R] : Json R → Except Breakdown (Option (Profile R))
  | .object fields =>
    let field (name : Text) : Json R := (Json.find? name fields).getD .null
    if (field "exists").isAbsent then .ok none
    else (field "muted_keywords").listed.map fun muted => some ⟨field "weights", muted⟩
  | _ => .error .noMember

def toJson : Option (Profile R) → Json R
  | none => .object [("exists", .bool false)]
  | some profile =>
    .object [("exists", .bool true), ("weights", profile.weights),
      ("muted_keywords", .array profile.muted)]

end Profile

namespace Service

variable {C R : Type} [Numeral R]

def loadIds (service : Service R) (key : CacheKey) (load : Task C R (List Text)) :
    Task C R IdSet := do
  match ← service.cached key with
  | some value => Task.ofBreakdown (IdSet.ofJson value)
  | none =>
    let ids := sortedIds (← load)
    service.keep key (.ofTexts ids)
    return .ids ids

def loadFollowing (service : Service R) (identity : Text) : Task C R IdSet :=
  service.loadIds (.follows identity) (Task.query (.following identity))

def loadBlocked (service : Service R) (identity : Text) : Task C R IdSet :=
  service.loadIds (.blocks identity) (Task.query (.blocked identity))

/-- The interest vector in its stored form. Its absence is not cached. -/
def loadInterest (service : Service R) (identity : Text) : Task C R (Option (Json R)) := do
  match ← service.cached (.interestVector identity) with
  | some value => return some value
  | none =>
    match ← Task.query (.interestVector identity) with
    | none => return none
    | some components =>
      service.keep (.interestVector identity) (.array components)
      return some (.array components)

def loadSeen (service : Service R) (identity : Text) : Task C R SeenMap := do
  match ← service.cached (.seen identity) with
  | some value => Task.ofBreakdown (SeenMap.ofJson value)
  | none =>
    let days := service.config.ranking.seenRetentionDays
    let since ← Task.ofBreakdown (retentionStart service.now days)
    let marks ← Task.query (.seen identity since)
    service.keep (.seen identity) (SeenMap.toJson marks)
    return SeenMap.ofMarks marks

variable [Component C R]

def loadTopics (service : Service R) (identity : Text) : Task C R IdSet :=
  service.loadIds (.topics identity) do
    let rows ← Task.query (.recentSaves identity service.config.ranking.recentSavesLimit)
    let posts : List (Post C) ← Task.ofBreakdown (rows.mapM PostRow.post)
    return Topic.ofPosts posts

omit [Component C R] in
def loadProfile (service : Service R) (identity : Text) : Task C R (Option (Profile R)) := do
  match ← service.cached (.profile identity) with
  | some value => Task.ofBreakdown (Profile.ofJson value)
  | none =>
    let profile ← Task.query (.profile identity)
    service.keep (.profile identity) (Profile.toJson profile)
    return profile

/-- The posts with some ids. Without ids nothing is asked. -/
def fetchPosts (ids : List Text) : Task C R (List (Post C)) := do
  if ids.isEmpty then return []
  else
    let rows ← Task.query (.content ids.eraseDups)
    Task.ofBreakdown (rows.mapM PostRow.post)

omit [Numeral R] [Component C R] in
/-- The authors with some ids. Without ids nothing is asked. -/
def fetchAuthors (ids : List Text) : Task C R (List Author) := do
  if ids.isEmpty then return [] else Task.query (.authors ids.eraseDups)

end Service

end PersonalFeed
