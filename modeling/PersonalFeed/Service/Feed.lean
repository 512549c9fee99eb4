import PersonalFeed.Feed.Candidates
import PersonalFeed.Feed.Hydration
import PersonalFeed.Paging
import PersonalFeed.PostId
import PersonalFeed.Ranking.Rank
import PersonalFeed.Service.Neighbours
import PersonalFeed.Vector.Stored
import PersonalFeed.Weights.Fingerprint

/-!
The discovery feed of a reader: what is known about the reader, the posts that the index finds
near the reader's interest, those of them that the reader may see, their ranking, and one page of
it. A request is checked before any call. A lost part of the context is neutral, except that
nothing but the own posts is visible when blocks or authors are lost. A page is cached only if no
part was lost.
-/

set_option autoImplicit false

namespace PersonalFeed

structure FeedRequest (R : Type) where
  identity : Text
  /-- The posts of a page, nothing for the configured size. -/
  pageSize : Json R
  cursor : Json R
  overrides : List (Text × Json R)

structure FeedQuery (R : Type) where
  identity : Text
  pageSize : Nat
  cursor : Option Text
  overrides : List (Text × Json R)

/-- What was loaded about a reader, nothing for the parts that were lost. -/
structure FeedContext (R : Type) where
  interest : Option (Option (Json R))
  following : Option IdSet
  blocked : Option IdSet
  seen : Option SeenMap
  topics : Option IdSet
  profile : Option (Option (Profile R))

namespace FeedContext

variable {R : Type}

def isComplete (context : FeedContext R) : Bool :=
  context.interest.isSome && context.following.isSome && context.blocked.isSome &&
    context.seen.isSome && context.topics.isSome && context.profile.isSome

def profile? (context : FeedContext R) : Option (Profile R) := context.profile.join

end FeedContext

def FeedResponse.empty {R : Type} (identity : Text) : FeedResponse R :=
  ⟨identity, [], none, false⟩

namespace Service

variable {C R : Type}

/-- The size of a page: the configured one unless another one is asked for. -/
def pageSize (config : Config R) (given : Json R) : Except (Refusal R) Nat :=
  match given with
  | .null => Page.checkSize config.ranking.largestPageSize (.int config.ranking.defaultPageSize)
  | given => Page.checkSize config.ranking.largestPageSize given

variable [Score R]

/-- Check a request. Overrides are tried on the configured weights. -/
def checkFeed (config : Config R) (request : FeedRequest R) : Except (Refusal R) (FeedQuery R) := do
  if request.identity.isEmpty then .error .identityMissing
  else
    let size ← pageSize config request.pageSize
    let cursor ← PostId.checkCursor request.cursor
    let _ ← config.weights.withOverrides request.overrides
    return ⟨request.identity, size, cursor, request.overrides⟩

/-- The weights of a profile, if it has any, or else the configured ones. Weights that do not fit
are lost. -/
def profileWeights (service : Service R) (profile : Option (Profile R)) :
    Task C R (Weights R) := do
  match profile with
  | none => return service.config.weights
  | some profile =>
    if profile.weights.isAbsent then return service.config.weights
    else
      match Weights.ofStored profile.weights with
      | .ok weights => return weights
      | .error (.configuration _) =>
        Task.count (.lost .profileWeights)
        return service.config.weights
      | .error fault => Task.fail fault

variable [Component C R]

def loadContext (service : Service R) (identity : Text) : Task C R (FeedContext R) := do
  let (interest, following, blocked, seen, topics, profile) ←
    Task.both (Task.attempt .interestVector (service.loadInterest identity)) <|
    Task.both (Task.attempt .follows (service.loadFollowing identity)) <|
    Task.both (Task.attempt .blocks (service.loadBlocked identity)) <|
    Task.both (Task.attempt .seen (service.loadSeen identity)) <|
    Task.both (Task.attempt .topics (service.loadTopics identity))
      (Task.attempt .profile (service.loadProfile identity))
  return ⟨interest, following, blocked, seen, topics, profile⟩

/-- What a reader may see: everything is known about the edges only if neither the blocks nor the
authors were lost. -/
def viewpointOf (identity : Text) (context : FeedContext R) (authors : Option (List Author)) :
    Viewpoint :=
  match context.blocked, authors with
  | some blocked, some authors =>
    ⟨identity, some ⟨(context.following.getD .empty).toList, blocked.toList, authors⟩⟩
  | _, _ => ⟨identity, none⟩

def readInterest (stored : Json R) : Except (Fault R) (Option (Embedding C)) :=
  match Embedding.ofStored stored with
  | .ok vector => .ok (some vector)
  | .error (.dimension _) => .ok none
  | .error fault => .error fault

def pageOf (service : Service R) (query : FeedQuery R) (authors : List Author)
    (ranked : List (Scored C R)) : FeedResponse R :=
  let page := Page.slice (fun s : Scored C R => s.post.id) ranked query.pageSize query.cursor
  ⟨query.identity, hydrate authors service.sign page.items, page.next, page.hasNext⟩

def computeFrom (service : Service R) (query : FeedQuery R) (context : FeedContext R)
    (weights : Weights R) (interest : Embedding C) : Task C R (FeedResponse R × Bool) := do
  let empty : FeedResponse R := .empty query.identity
  let limit : Int := query.pageSize * service.config.ranking.overFetchFactor
  let search := findNeighbours interest limit (context.blocked.getD .empty) []
  let some found ← Task.attempt .candidates search | return (empty, false)
  if found.isEmpty then return (empty, context.isComplete)
  else
    let some posts ← Task.attempt .content (fetchPosts (found.map (·.id))) | return (empty, false)
    let items : List (Post C) := inFoundOrder found posts
    -- Without the authors the page still has the posts of the reader, but it is not complete.
    let authors ← Task.attempt .authors (fetchAuthors (items.map (·.author)))
    let visible := (viewpointOf query.identity context authors).visible items
    let reader : ReaderContext C R := {
      interest := interest
      seen := context.seen.getD []
      topics := context.topics.getD .empty
      muted := (context.profile?.map (·.muted)).getD [] }
    let candidates ← Task.ofExcept (candidatesOf service.config service.now reader found visible)
    let threshold := service.config.ranking.diversityThreshold
    let ranked ← Task.ofBreakdown (rank weights threshold candidates)
    Task.count (.candidates found.length visible.length ranked.length)
    return (service.pageOf query (authors.getD []) ranked, context.isComplete && authors.isSome)

/-- The page of a request, and whether it may be cached. A reader without a usable interest gets an
empty page that may not. -/
def computePage (service : Service R) (query : FeedQuery R) : Task C R (FeedResponse R × Bool) := do
  let context ← loadContext (C := C) service query.identity
  let own ← service.profileWeights context.profile?
  let weights ← Task.ofRefusal (own.withOverrides query.overrides)
  match context.interest.join with
  | none => return (.empty query.identity, false)
  | some stored =>
    match ← Task.ofExcept (readInterest stored) with
    | none =>
      Task.count (.lost .interestVector)
      return (.empty query.identity, false)
    | some interest => service.computeFrom query context weights interest

def rankFeedChecked (service : Service R) (query : FeedQuery R) : Task C R (FeedResponse R) := do
  let fingerprint ← Task.ofExcept (Weights.fingerprint query.overrides)
  let key : CacheKey := .page query.identity fingerprint query.pageSize query.cursor
  match ← service.cached key with
  | some value => Task.ofExcept ((FeedResponse.read value).toExcept.mapError Fault.schema)
  | none =>
    let (response, complete) ← computePage (C := C) service query
    if complete then service.keep key response.toJson
    return response

def rankFeed (service : Service R) (request : FeedRequest R) : Task C R (FeedResponse R) := do
  let query ← Task.ofRefusal (checkFeed service.config request)
  Task.count .feed
  rankFeedChecked service query

end Service

end PersonalFeed
