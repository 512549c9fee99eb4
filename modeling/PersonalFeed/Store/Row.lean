import PersonalFeed.Json.Numeric
import PersonalFeed.Number.Scalar
import PersonalFeed.Post
import PersonalFeed.Vector.Embedding

/-!
Rows of the relational store, and what the service makes of them. Lists and records inside a column
are stored as values and read when they are needed. Columns of text hold bytes and columns of
numbers hold 64 bits.
-/

set_option autoImplicit false

namespace PersonalFeed

/-- What a person has set for the own feed. -/
structure Profile (R : Type) where
  weights : Json R
  muted : List (Json R)

structure UserRow (R : Type) where
  id : Text
  username : Text
  displayName : Option Text
  avatarUrl : Option Text
  isPrivate : Bool
  /-- The interest vector, none before the first one is built. -/
  interest : Option (List (Json R))
  weights : Json R
  muted : Option (List (Json R))

structure PostRow (R : Type) where
  id : Text
  author : Text
  body : Option Text
  createdAt : Timestamp
  saves : Int
  comments : Int
  tags : List Text
  contentType : Option Text
  mediaKey : Option Text
  mediaType : Option Text
  embedding : Option (List (Json R))

/-- A person's mark on a post: saved at a moment, or shown at a moment. -/
structure Mark where
  user : Text
  post : Text
  moment : Timestamp
  deriving DecidableEq, Repr

def columnFlaw? (texts : List Text) (numbers : List Int) : Option Breakdown :=
  if !texts.all Text.isWhole then some .unencodable
  else if !numbers.all Number.isWord then some .outOfRange
  else none

namespace UserRow

variable {R : Type}

def flaw? (user : UserRow R) : Option Breakdown :=
  columnFlaw? (user.id :: user.username :: user.displayName.toList ++ user.avatarUrl.toList) []

def interestVector (user : UserRow R) : Option (List (Json R)) :=
  user.interest.filter fun components => !components.isEmpty

def author (user : UserRow R) : Author :=
  ⟨user.id, user.isPrivate, some user.username, user.displayName, user.avatarUrl⟩

/-- The settings of a person; weights that count as absent are none. -/
def profile [Scalar R] (user : UserRow R) : Profile R :=
  ⟨if user.weights.isAbsent then .null else user.weights, user.muted.getD []⟩

end UserRow

namespace PostRow

variable {C R : Type}

def flaw? (row : PostRow R) : Option Breakdown :=
  let texts := [row.body, row.mediaKey, row.mediaType, row.contentType].flatMap Option.toList
  columnFlaw? (row.id :: row.author :: texts) [row.saves, row.comments]

variable [Numeral R] [Component C R]

/-- The stored embedding: none unless it has as many entries as a vector has components. -/
def storedEmbedding (row : PostRow R) : Except Breakdown (Option (Tensor C)) :=
  match row.embedding with
  | none => .ok none
  | some entries =>
    if entries.length = vectorWidth then
      (Json.array entries).toTensor.map fun t => some (Embedding.narrow t)
    else .ok none

def post (row : PostRow R) : Except Breakdown (Post C) :=
  row.storedEmbedding.map fun embedding =>
    { id := row.id
      author := row.author
      body := row.body.getD .empty
      createdAt := row.createdAt
      saves := row.saves
      comments := row.comments
      tags := row.tags
      contentType := row.contentType
      mediaKey := row.mediaKey
      mediaType := row.mediaType
      embedding := embedding }

end PostRow

namespace Mark

def key (mark : Mark) : Text × Text := (mark.user, mark.post)

def flaw? (mark : Mark) : Option Breakdown := columnFlaw? [mark.user, mark.post] []

end Mark

end PersonalFeed
