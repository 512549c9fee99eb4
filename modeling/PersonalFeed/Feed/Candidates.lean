import PersonalFeed.Index.Points
import PersonalFeed.Ranking.Candidate
import PersonalFeed.Seen
import PersonalFeed.Settings.Config
import PersonalFeed.Signal.Content
import PersonalFeed.Signal.Recency
import PersonalFeed.Topic
import PersonalFeed.Vector.Similarity

/-!
From visible posts to candidates. The posts that have a vector are compared with the interest of the
reader in one batch, whose scores are put back at the places of the posts. All other signals are
read off one post after the other.
-/

set_option autoImplicit false

namespace PersonalFeed

open Scalar

variable {C R : Type}

structure ReaderContext (C R : Type) where
  interest : Embedding C
  seen : SeenMap
  topics : IdSet
  muted : List (Json R)

def neighbour? (found : List (Neighbour C R)) (post : Text) : Option (Neighbour C R) :=
  found.reverse.find? (·.id = post)

/-- The vector of a post: the one in the index, or else the stored one. -/
def vectorOf (found : List (Neighbour C R)) (post : Post C) : Option (Tensor C) :=
  match (neighbour? found post.id).bind (·.vector) with
  | some vector => some vector.toTensor
  | none => post.embedding

/-- Read the vectors of some posts. Those that there are have to form a matrix of embeddings. -/
def readVectors (vectors : List (Option (Tensor C))) :
    Except (Fault R) (List (Option (Embedding C))) := do
  let present := vectors.filterMap id
  if present.isEmpty then return vectors.map fun _ => none
  else
    let rows ← Embedding.rowsOfTensor (.row present)
    -- Vectors without any value count as no rows, and then there is no row for each post.
    if rows.length = present.length then
      vectors.mapM fun vector =>
        match vector with
        | none => return none
        | some t => some <$> Embedding.ofTensor t
    else .error (.broken .ragged)

/-- Days since a post was shown, nothing if it never was or if the mark is too old to count. -/
def daysSinceSeen [Scalar R] (config : Config R) (now : Timestamp) (seen : SeenMap)
    (post : Text) : Except Breakdown (Option R) :=
  match seen.find? post with
  | none => .ok none
  | some none => .error .wrongKind
  | some (some moment) =>
    let days : R := moment.daysUntil now
    if lt (ofInt config.ranking.seenRetentionDays) days then .ok none else .ok (some days)

variable [Score R] [Component C R]

/-- The similarity of a post. Without a vector the score of the index stands for it. -/
def similarityOf (interest : Embedding C) (found : List (Neighbour C R)) (post : Post C)
    (vector : Option (Embedding C)) : R :=
  match vector with
  | some v => Component.widen (interest.cosine v)
  | none => ((neighbour? found post.id).map (·.score)).getD zero

def filledPlaces {α : Type} (entries : List (Option α)) : List Nat :=
  (List.range entries.length).filter fun place => entries[place]?.join.isSome

def scatter {α : Type} (row : List α) (places : List Nat) (values : List α) : List α :=
  (places.zip values).foldl (fun row (place, value) => row.set place value) row

def batchSimilarities (interest : Embedding C) (found : List (Neighbour C R))
    (posts : List (Post C)) (vectors : List (Option (Embedding C))) : List R :=
  let places := filledPlaces vectors
  let rows := places.filterMap fun place => vectors[place]?.join
  let scores := (interest.similarities rows).map Component.widen
  let scattered := scatter (List.replicate posts.length zero) places scores
  (posts.zip (vectors.zip scattered)).map fun (post, vector, similarity) =>
    match vector, neighbour? found post.id with
    | none, some neighbour => neighbour.score
    | _, _ => similarity

def candidateWith (config : Config R) (now : Timestamp) (reader : ReaderContext C R)
    (post : Post C) (vector : Option (Embedding C)) (similarity : R) :
    Except (Fault R) (Candidate C R) := do
  let days ← (daysSinceSeen config now reader.seen post.id).mapError Fault.broken
  let temporal ← recency? post now (.real config.ranking.decayRate)
  let privacy ← privacyScore? reader.muted post
  return {
    post := post
    similarity := similarity
    engagement := engagement config.caps post
    temporal := temporal
    privacy := privacy
    novelty := Topic.novelty (Topic.ofPost post) reader.topics.toList
    seen := seenMultiplier days
    contentType := (ContentType.ofPost post).name
    vector := vector }

def candidateOf (config : Config R) (now : Timestamp) (reader : ReaderContext C R)
    (found : List (Neighbour C R)) (post : Post C) (vector : Option (Embedding C)) :
    Except (Fault R) (Candidate C R) :=
  candidateWith config now reader post vector (similarityOf reader.interest found post vector)

def candidatesOf (config : Config R) (now : Timestamp) (reader : ReaderContext C R)
    (found : List (Neighbour C R)) (posts : List (Post C)) :
    Except (Fault R) (List (Candidate C R)) := do
  let vectors ← readVectors (posts.map (vectorOf found))
  let similarities := batchSimilarities reader.interest found posts vectors
  (posts.zip (vectors.zip similarities)).mapM fun (post, vector, similarity) =>
    candidateWith config now reader post vector similarity

end PersonalFeed
