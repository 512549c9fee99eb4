import PersonalFeed.Service.Context

/-!
Calls to the vector index. Searches leave out what a reader must not see, and stored vectors of an
unusable shape are as good as none.
-/

set_option autoImplicit false

namespace PersonalFeed.Service

variable {C R : Type}

def findNeighbours (query : Embedding C) (limit : Int) (excluded : IdSet) (posts : List Text) :
    Task C R (List (Neighbour C R)) := do
  if limit ≤ 0 then return []
  else
    let exclusion ← Task.ofExcept (Exclusion.ofSet excluded posts)
    let hits ← Task.answer Task.indexName (← Task.ask (.search query limit exclusion))
    Task.ofBreakdown (hits.mapM Hit.neighbour)

def inFoundOrder (found : List (Neighbour C R)) (posts : List (Post C)) : List (Post C) :=
  found.filterMap fun neighbour => posts.find? (·.id = neighbour.id)

/-- The usable vectors of some posts in the index. Without ids nothing is asked. -/
def fetchVectors (ids : List Text) : Task C R (List (Text × Embedding C)) := do
  if ids.isEmpty then return []
  else
    let hits ← Task.answer Task.indexName (← Task.ask (.retrieve ids.eraseDups))
    let neighbours ← Task.ofBreakdown (hits.mapM Hit.neighbour)
    return neighbours.filterMap fun neighbour => neighbour.vector.map (neighbour.id, ·)

def vectorFor (vectors : List (Text × Embedding C)) (post : Text) : Option (Embedding C) :=
  (vectors.reverse.find? (·.1 = post)).map (·.2)

def indexPost (id author : Text) (vector : Tensor C) : Task C R Unit := do
  let vector ← Task.ofExcept (Embedding.ofTensor vector)
  Task.answer Task.indexName (← Task.ask (.index id author vector))

def openIndex : Task C R Unit := do
  Task.answer Task.indexName (← Task.ask .openIndex)

end PersonalFeed.Service
