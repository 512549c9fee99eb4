import PersonalFeed.Feed.Item
import PersonalFeed.Json.Members
import PersonalFeed.Media
import PersonalFeed.Ranking.Candidate

/-!
From scored posts to feed items: author, media address and rounded scores are added to the posts of
one page only.
-/

set_option autoImplicit false

namespace PersonalFeed

variable {C R : Type}

/-- The address of a post's medium: none without a key, without a signer, or if signing fails. -/
def mediaUrl (sign : Option MediaSigner) (key : Option Text) : Option Text :=
  match key, sign with
  | some key, some sign => if key.isEmpty then none else sign key
  | _, _ => none

def Scored.scores (s : Scored C R) : ItemScores R :=
  ⟨s.similarity, s.engagement, s.temporal, s.diversity, s.privacy, s.seen, s.final⟩

variable [Numeral R]

def shownScore (x : R) : R := Numeral.roundPlaces 6 x

def Scored.item (authors : List Author) (sign : Option MediaSigner) (s : Scored C R) :
    FeedItem R :=
  let post := s.post
  let author := Author.find? authors post.author
  { postId := post.id
    authorId := post.author
    username := author.bind (·.username)
    displayName := author.bind (·.displayName)
    avatarUrl := author.bind (·.avatarUrl)
    content := some post.body
    tags := post.tags
    contentType := s.contentType
    mediaUrl := mediaUrl sign post.mediaKey
    mediaType := post.mediaType
    saves := post.saves
    comments := post.comments
    createdAt := .ofTimestamp post.createdAt
    scores := s.scores.map shownScore }

def hydrate (authors : List Author) (sign : Option MediaSigner) (page : List (Scored C R)) :
    List (FeedItem R) :=
  page.map (Scored.item authors sign)

structure AuthorRecord (R : Type) where
  id : Json R
  username : Json R
  displayName : Json R
  avatarUrl : Json R

def AuthorRecord.ofJson (record : Json R) : AuthorRecord R :=
  let field (name : Text) : Json R := (record.field? name).getD .null
  ⟨field "id", field "username", field "display_name", field "avatar_url"⟩

structure ScoredRecord (R : Type) where
  postId : Json R
  author : Json R
  body : Json R
  tags : List (Json R)
  contentType : Json R
  mediaKey : Json R
  mediaType : Json R
  saves : Json R
  comments : Json R
  createdAt : ItemMoment
  /-- The scores in the order in which items show them, by name. -/
  scores : List (Text × Json R)

/-- A recorded score as it is shown. Truth values count as one and zero. -/
def shownRecord : Json R → Except Breakdown (Json R)
  | .int n => .ok (.int n)
  | .bool b => .ok (.int b.toInt)
  | .real x => .ok (.real (shownScore x))
  | .null | .string _ | .array _ | .object _ => .error .wrongKind

def shownRecords (scores : List (Text × Json R)) : Except Breakdown (List (Text × Json R)) :=
  scores.mapM fun (name, score) => return (name, ← shownRecord score)

def recordedUrl (sign : Option MediaSigner) (key : Json R) : Except Breakdown (Option Text) :=
  match sign, key with
  | none, _ => .ok none
  | _, .string text => .ok (mediaUrl sign (some text))
  | _, other => if other.isAbsent then .ok none else .error .noMember

def recordedAuthor (authors : List (AuthorRecord R)) (id : Json R) :
    Except Breakdown (Option (AuthorRecord R)) := do
  let id ← id.member
  return authors.reverse.find? fun author => author.id.isSameMember id

/-- The item of a scored record. The scores are checked first, then all fields against the schema of
items. -/
def ScoredRecord.item (authors : List (AuthorRecord R)) (sign : Option MediaSigner)
    (s : ScoredRecord R) : Except (Fault R) (FeedItem R) := do
  let author ← (recordedAuthor authors s.author).mapError Fault.broken
  let address ← (recordedUrl sign s.mediaKey).mapError Fault.broken
  let shown ← (shownRecords s.scores).mapError Fault.broken
  let scores ← (ItemScores.read (.object shown)).toExcept.mapError Fault.schema
  let ofAuthor (field : AuthorRecord R → Json R) : Json R := (author.map field).getD .null
  let record : Json R := .object [
    ("post_id", s.postId), ("author_id", s.author), ("username", ofAuthor (·.username)),
    ("display_name", ofAuthor (·.displayName)), ("avatar_url", ofAuthor (·.avatarUrl)),
    ("content", s.body), ("tags", .array s.tags), ("content_type", s.contentType),
    ("media_url", .ofOption .string address), ("media_type", s.mediaType),
    ("save_count", s.saves), ("comment_count", s.comments),
    ("created_at", .string s.createdAt.text), ("scores", scores.toJson)]
  let item ← (FeedItem.read record).toExcept.mapError Fault.schema
  -- The moment is shown as it was recorded, not as it is read back.
  return { item with createdAt := s.createdAt }

/-- The items of a page of records; the first record that does not fit ends it. Authors are found by
their ids, so what is no id stops everything. -/
def hydrateRecords (authors : List (AuthorRecord R)) (sign : Option MediaSigner)
    (page : List (ScoredRecord R)) : Except (Fault R) (List (FeedItem R)) := do
  let _ ← ((authors.map (·.id)).mapM Json.member).mapError Fault.broken
  page.mapM fun s => s.item authors sign

end PersonalFeed
