import PersonalFeed.Service.Feed

/-!
Posts similar to one post: the neighbours of its vector that the requester may see, by similarity.
Nothing is answered for a post that the requester may not see. The answer is cached even if the
vector in the index or the requester's follows were lost.
-/

set_option autoImplicit false

namespace PersonalFeed

structure SimilarRequest (R : Type) where
  post : Json R
  requester : Text
  /-- The most posts to answer with, nothing for the configured page size. -/
  limit : Json R

structure SimilarQuery where
  post : Text
  requester : Text
  limit : Nat

namespace Service

open Scalar

variable {C R : Type} [Score R] [Component C R]

omit [Component C R] in
def checkSimilar (config : Config R) (request : SimilarRequest R) :
    Except (Refusal R) SimilarQuery := do
  let post ← PostId.check "post_id" request.post
  if request.requester.isEmpty then .error .identityMissing
  else return ⟨post, request.requester, ← pageSize config request.limit⟩

/-- A neighbour as it is shown: by its similarity alone. -/
def similarScored (service : Service R) (found : List (Neighbour C R)) (post : Post C) :
    Except (Fault R) (Scored C R) := do
  let rate : Json R := .real service.config.ranking.decayRate
  let similarity : R := ((neighbour? found post.id).map (·.score)).getD zero
  let temporal ← recency? post service.now rate
  return {
    post := post
    similarity := similarity
    engagement := engagement service.config.caps post
    temporal := temporal
    diversity := one
    privacy := one
    seen := one
    final := larger zero similarity
    contentType := (ContentType.ofPost post).name }

def requesterView (requester : Text) (following : Option IdSet) (blocked : IdSet)
    (authors : List Author) : Viewpoint :=
  ⟨requester, some ⟨(following.getD .empty).toList, blocked.toList, authors⟩⟩

/-- The answer for the neighbours of a vector, nothing if a part was lost or nothing was found. -/
def computeNeighbours (service : Service R) (query : SimilarQuery) (following : Option IdSet)
    (blocked : IdSet) (vector : Tensor C) : Task C R (Option (SimilarResponse R)) := do
  let search : Task C R (List (Neighbour C R)) := do
    let direction ← Task.ofExcept (Embedding.ofTensor vector)
    -- The post itself would be the nearest of all.
    findNeighbours direction query.limit blocked [query.post]
  let some found ← Task.attempt .candidates search | return none
  if found.isEmpty then return none
  else
    let some posts ← Task.attempt .content (fetchPosts (found.map (·.id))) | return none
    let items : List (Post C) := inFoundOrder found posts
    let some authors ← Task.attempt .authors (fetchAuthors (items.map (·.author))) | return none
    let visible := (requesterView query.requester following blocked authors).visible items
    let scored ← Task.ofExcept (visible.mapM (service.similarScored found))
    let shown := (Scored.ordered scored).take query.limit
    return some ⟨query.post, hydrate authors service.sign shown⟩

def computeSimilar (service : Service R) (query : SimilarQuery) :
    Task C R (Option (SimilarResponse R)) := do
  let (source, stored, following, blocked) ←
    Task.both (Task.attempt .content (fetchPosts (C := C) [query.post])) <|
    Task.both (Task.attempt .candidates (fetchVectors [query.post])) <|
    Task.both (Task.attempt .follows (service.loadFollowing query.requester))
      (Task.attempt .blocks (service.loadBlocked query.requester))
  let some posts := source | return none
  -- Without the blocks nothing is shown, but a follow more or less only opens private authors.
  let some blocked := blocked | return none
  let some post := posts.find? (·.id = query.post) | return none
  let some authors ← Task.attempt .authors (fetchAuthors [post.author]) | return none
  if (requesterView query.requester following blocked authors).canSee post.author then
    match ((vectorFor (stored.getD []) query.post).map Embedding.toTensor).orElse
        fun _ => post.embedding with
    | none => return none
    | some vector => service.computeNeighbours query following blocked vector
  else return none

def similarPosts (service : Service R) (request : SimilarRequest R) :
    Task C R (SimilarResponse R) := do
  let query ← Task.ofRefusal (checkSimilar service.config request)
  let key : CacheKey := .similar query.post query.requester query.limit
  match ← service.cached key with
  | some value => Task.ofExcept ((SimilarResponse.read value).toExcept.mapError Fault.schema)
  | none =>
    match ← computeSimilar (C := C) service query with
    -- What is missing may be there the next time, so an answer that ended early is not kept.
    | none => return ⟨query.post, []⟩
    | some response =>
      service.keep key response.toJson
      return response

end Service

end PersonalFeed
