import PersonalFeed.Ranking.Candidate
import PersonalFeed.Ranking.Greedy
import PersonalFeed.Vector.Nearest
import PersonalFeed.Weights.Basic

/-!
The ranking of candidates: the blend of five signals, divided by the sum of their weights and
multiplied for posts shown before, in the greedy order.
-/

set_option autoImplicit false

namespace PersonalFeed

open Scalar

variable {C R : Type} [Scalar R]

namespace Candidate

/-- The part of the blend that does not depend on earlier posts. Similarity counts from zero up. -/
def base (weights : Weights R) (c : Candidate C R) : R :=
  larger zero c.similarity * weights.similarity + c.temporal * weights.temporal +
    c.engagement * weights.engagement + c.privacy * weights.privacy

def row {α : Type} (weights : Weights R) (item : α) (c : Candidate C R) : Greedy.Row α R where
  item := item
  base := c.base weights
  novelty := c.novelty
  seen := c.seen
  moment := c.post.createdAt.seconds
  id := c.post.id
  hits := 0
  isOpen := true

def scored (c : Candidate C R) (diversity final : R) : Scored C R where
  post := c.post
  similarity := c.similarity
  engagement := c.engagement
  temporal := c.temporal
  diversity := diversity
  privacy := c.privacy
  seen := c.seen
  final := final
  contentType := c.contentType

variable [Component C R] in
/-- Whether two candidates are near each other: both have a vector, and the similarity of the
vectors exceeds the threshold. -/
def isNear (threshold : R) (a b : Candidate C R) : Bool :=
  match a.vector, b.vector with
  | some v, some w => v.isNear threshold w
  | _, _ => false

end Candidate

def Weights.blend (w : Weights R) : Greedy.Blend R := ⟨w.diversity, w.total⟩

def rankBy (near : Candidate C R → Candidate C R → Bool) (weights : Weights R)
    (candidates : List (Candidate C R)) : Except Breakdown (List (Scored C R)) := do
  let placements ← Greedy.order near weights.blend (candidates.map fun c => c.row weights c)
  return placements.map fun p => p.item.scored p.diversity p.final

variable [Component C R]

def isNearDirected (threshold : C)
    (a b : Candidate C R × Option (Embedding C)) : Bool :=
  match a.2, b.2 with
  | some v, some w => lt threshold (v.alignment w)
  | _, _ => false

/-- The greedy ranking by similarity of vectors. Each vector is normalised once. -/
def rank (weights : Weights R) (threshold : R) (candidates : List (Candidate C R)) :
    Except Breakdown (List (Scored C R)) := do
  let narrow := Component.narrow threshold
  let directed := candidates.map fun c => (c, c.vector.map Embedding.normalize)
  let placements ← Greedy.order (isNearDirected narrow) weights.blend
    (directed.map fun d => d.1.row weights d)
  return placements.map fun p => p.item.1.scored p.diversity p.final

end PersonalFeed
