import PersonalFeed.Index.Exclusion
import PersonalFeed.Index.PointId
import PersonalFeed.Sorting.Adaptive
import PersonalFeed.Vector.Embedding

/-!
The vector index: posts by direction. Vectors are kept at length one, and a search answers with the
points of the most similar vectors, most similar first. Lengths and scores have the precision of
scores, so no vector that components can write is too long or too short to have a direction. The
index takes every component that is a number; an infinite one leaves none in its place.
-/

set_option autoImplicit false

namespace PersonalFeed

open Scalar

structure Point (C : Type) where
  id : Text
  author : Text
  direction : Embedding C

/-- A point as the index reports it. The vector may be missing or of any shape. -/
structure Hit (C R : Type) where
  id : Text
  score : R
  vector : Option (Tensor C)

structure Neighbour (C R : Type) where
  id : Text
  score : R
  vector : Option (Embedding C)

namespace Hit

variable {C R : Type}

/-- The vector of a hit: one of another shape is as good as none. -/
def embedding (hit : Hit C R) : Except Breakdown (Option (Embedding C)) :=
  match hit.vector with
  | none => .ok none
  | some t =>
    if t.shape?.isNone then .error .ragged
    else .ok (t.flatRow?.bind fun row => Embedding.ofArray? row.toArray)

def neighbour (hit : Hit C R) : Except Breakdown (Neighbour C R) :=
  hit.embedding.map fun vector => ⟨hit.id, hit.score, vector⟩

end Hit

structure Index (C : Type) where
  points : List (Point C)

namespace Index

variable {C R : Type}

def empty : Index C := ⟨[]⟩

variable [Component C R] [Rooted R]

def checkVector (vector : Embedding C) : Except Breakdown Unit :=
  if vector.components.any isNaN then .error .unreadable else .ok ()

def length (vector : Embedding C) : R :=
  Rooted.sqrt (vector.components.foldl (fun sum x => sum + Component.widen x * Component.widen x)
    zero)

/-- What the components of a vector are divided by for length one; the zero vector stays. -/
def divisor (vector : Embedding C) : R :=
  let length := length vector
  if lt zero length then length else one

def direction (vector : Embedding C) : Embedding C :=
  let divisor := divisor vector
  vector.map fun x => Component.narrow (Component.widen x / divisor)

def score (query kept : Embedding C) : R :=
  let divisor := divisor query
  (Array.zip query.components kept.components).foldl
    (fun sum pair => sum + Component.widen pair.1 / divisor * Component.widen pair.2) zero

def place (point : Point C) : List (Point C) → List (Point C)
  | [] => [point]
  | other :: rest => if other.id = point.id then point :: rest else other :: place point rest

def add (index : Index C) (id author : Text) (vector : Embedding C) :
    Except Breakdown (Index C) :=
  match PointId.canonical? id with
  | none => .error .unreadable
  | some id => do
    checkVector vector
    return ⟨place ⟨id, author, direction vector⟩ index.points⟩

def report (query : Embedding C) (point : Point C) : Hit C R :=
  ⟨point.id, score query point.direction, some point.direction.toTensor⟩

/-- The points most similar to a query, without what is left out. An id to leave out that is no
point's id leaves nothing out. -/
def search (index : Index C) (query : Embedding C) (limit : Int) (exclusion : Exclusion) :
    Except Breakdown (List (Hit C R)) := do
  checkVector query
  let exclusion : Exclusion :=
    ⟨exclusion.authors, exclusion.posts.filterMap PointId.canonical?⟩
  let eligible := index.points.filter fun point => !exclusion.excludes point.id point.author
  let scored := Sorting.sortStrays (fun hit : Hit C R => isNaN hit.score)
    (fun a b => lt b.score a.score) (eligible.map (report query))
  return scored.take limit.toNat

def retrieve (index : Index C) (ids : List Text) : List (Hit C R) :=
  let ids := ids.filterMap PointId.canonical?
  (index.points.filter fun point => ids.contains point.id).map fun point =>
    ⟨point.id, zero, some point.direction.toTensor⟩

end Index

end PersonalFeed
