import PersonalFeed.Json.Basic
import PersonalFeed.Time.Iso
import PersonalFeed.Vector.Tensor

/-!
Posts and the people around them, as the ranking sees them.
-/

set_option autoImplicit false

namespace PersonalFeed

/-- A post with its counters and its stored embedding. -/
structure Post (C : Type) where
  id : Text
  author : Text
  body : Text
  createdAt : Timestamp
  saves : Int
  comments : Int
  tags : List Text
  contentType : Option Text
  mediaKey : Option Text
  mediaType : Option Text
  embedding : Option (Tensor C)

def Post.toJson {C R : Type} (post : Post C) (embedding : Json R) : Json R :=
  .object [
    ("content_id", .string post.id), ("author_id", .string post.author),
    ("body", .string post.body), ("created_at", .string post.createdAt.isoText),
    ("save_count", .int post.saves), ("comment_count", .int post.comments),
    ("tags", .ofTexts post.tags), ("content_type", .ofOption .string post.contentType),
    ("media_key", .ofOption .string post.mediaKey),
    ("media_type", .ofOption .string post.mediaType), ("embedding", embedding)]

/-- What is public of an author, and whether the profile is private. -/
structure Author where
  id : Text
  isPrivate : Bool
  username : Option Text
  displayName : Option Text
  avatarUrl : Option Text
  deriving DecidableEq, Repr

def Author.toJson {R : Type} (author : Author) : Json R :=
  .object [
    ("identity_id", .string author.id), ("is_private", .bool author.isPrivate),
    ("username", .ofOption .string author.username),
    ("display_name", .ofOption .string author.displayName),
    ("avatar_url", .ofOption .string author.avatarUrl)]

def Author.find? (authors : List Author) (id : Text) : Option Author :=
  authors.reverse.find? (·.id = id)

end PersonalFeed
