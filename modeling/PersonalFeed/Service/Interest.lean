import PersonalFeed.Service.Neighbours
import PersonalFeed.Vector.Centroid

/-!
The interest vector of a person: the direction of the centroid of the posts the person saved and
wrote lately. It is rebuilt on request, and a failing store fails the request.
-/

set_option autoImplicit false

namespace PersonalFeed

structure Rebuild where
  identity : Text
  rebuilt : Bool
  sources : Nat
  deriving DecidableEq, Repr

def Rebuild.toJson {R : Type} (rebuild : Rebuild) : Json R :=
  .object [("identity_id", .string rebuild.identity), ("rebuilt", .bool rebuild.rebuilt),
    ("source_posts", .int rebuild.sources)]

namespace Service

variable {C R : Type} [Numeral R] [Component C R]

def sourceVectors (sources : List Text) : Task C R (List (Tensor C)) := do
  let indexed ← Task.bounded Task.indexName (fetchVectors sources)
  let missing := sources.filter fun post => (vectorFor indexed post).isNone
  let posts : List (Post C) ←
    if missing.isEmpty then pure []
    else Task.bounded Task.databaseName (fetchPosts missing)
  return sources.filterMap fun post =>
    match vectorFor indexed post with
    | some vector => some vector.toTensor
    | none => (posts.find? (·.id = post)).bind (·.embedding)

def interestOf (vectors : List (Tensor C)) : Except (Fault R) (Embedding C) :=
  (centroidOf (.row vectors)).map Embedding.normalize

/-- Rebuild the interest vector of a person. Without any vector nothing changes. -/
def rebuildInterest (service : Service R) (identity : Text) : Task C R Rebuild := do
  if identity.isEmpty then Task.fail (.refused .identityMissing)
  else
    let limit := service.config.ranking.interestSourceLimit
    let sources ← Task.bounded Task.databaseName (Task.query (.interestSources identity limit))
    let vectors ← sourceVectors (C := C) sources
    if vectors.isEmpty then return ⟨identity, false, 0⟩
    else
      let interest ← Task.ofExcept (interestOf vectors)
      let components := interest.toList.map Component.widen
      Task.bounded Task.databaseName (Task.query (.setInterestVector identity components))
      -- The row is stored before the cache is cleared, so that nothing older is loaded after it.
      drop [service.key (.interestVector identity)]
      let _ ← service.dropPages (some identity)
      return ⟨identity, true, vectors.length⟩

end Service

end PersonalFeed
