import PersonalFeed.Feed.Moment
import PersonalFeed.Schema.Lax

/-!
Items of a feed as readers get them, and the answers they come in. Items are written as records
and read back from the cache through a schema.
-/

set_option autoImplicit false

namespace PersonalFeed

structure ItemScores (R : Type) where
  similarity : R
  engagement : R
  temporal : R
  diversity : R
  privacy : R
  seen : R
  final : R
  deriving DecidableEq

/-- A ranked post with its author and its media. -/
structure FeedItem (R : Type) where
  postId : Text
  authorId : Text
  username : Option Text
  displayName : Option Text
  avatarUrl : Option Text
  content : Option Text
  tags : List Text
  contentType : Text
  mediaUrl : Option Text
  mediaType : Option Text
  saves : Int
  comments : Int
  createdAt : ItemMoment
  scores : ItemScores R
  deriving DecidableEq

structure FeedResponse (R : Type) where
  identityId : Text
  items : List (FeedItem R)
  next : Option Text
  hasNext : Bool
  deriving DecidableEq

structure SimilarResponse (R : Type) where
  postId : Text
  items : List (FeedItem R)

variable {R : Type}

def ItemScores.map (f : R → R) (scores : ItemScores R) : ItemScores R where
  similarity := f scores.similarity
  engagement := f scores.engagement
  temporal := f scores.temporal
  diversity := f scores.diversity
  privacy := f scores.privacy
  seen := f scores.seen
  final := f scores.final

def ItemScores.toJson (scores : ItemScores R) : Json R :=
  .object [
    ("similarity", .real scores.similarity), ("engagement", .real scores.engagement),
    ("temporal", .real scores.temporal), ("diversity", .real scores.diversity),
    ("privacy", .real scores.privacy), ("seen_multiplier", .real scores.seen),
    ("final", .real scores.final)]

def FeedItem.toJson (item : FeedItem R) : Json R :=
  .object [
    ("post_id", .string item.postId), ("author_id", .string item.authorId),
    ("username", .ofOption .string item.username),
    ("display_name", .ofOption .string item.displayName),
    ("avatar_url", .ofOption .string item.avatarUrl),
    ("content", .ofOption .string item.content), ("tags", .ofTexts item.tags),
    ("content_type", .string item.contentType),
    ("media_url", .ofOption .string item.mediaUrl),
    ("media_type", .ofOption .string item.mediaType),
    ("save_count", .int item.saves), ("comment_count", .int item.comments),
    ("created_at", .string item.createdAt.text), ("scores", item.scores.toJson)]

def itemsJson (items : List (FeedItem R)) : Json R := .array (items.map FeedItem.toJson)

def FeedResponse.toJson (response : FeedResponse R) : Json R :=
  .object [
    ("identity_id", .string response.identityId), ("items", itemsJson response.items),
    ("next_cursor", .ofOption .string response.next), ("has_next_page", .bool response.hasNext)]

def SimilarResponse.toJson (response : SimilarResponse R) : Json R :=
  .object [("post_id", .string response.postId), ("items", itemsJson response.items)]

open Schema

variable [Numeral R]

def ItemScores.read : Reader R (ItemScores R) :=
  record .notRecord fun fields =>
    ItemScores.mk
      <$> required fields "similarity" real
      <*> required fields "engagement" real
      <*> required fields "temporal" real
      <*> required fields "diversity" real
      <*> required fields "privacy" real
      <*> required fields "seen_multiplier" real
      <*> required fields "final" real

def FeedItem.read : Reader R (FeedItem R) :=
  record .notRecord fun fields =>
    FeedItem.mk
      <$> required fields "post_id" text
      <*> required fields "author_id" text
      <*> defaulted fields "username" none (nullable text)
      <*> defaulted fields "display_name" none (nullable text)
      <*> defaulted fields "avatar_url" none (nullable text)
      <*> defaulted fields "content" none (nullable text)
      <*> defaulted fields "tags" [] (list text)
      <*> required fields "content_type" text
      <*> defaulted fields "media_url" none (nullable text)
      <*> defaulted fields "media_type" none (nullable text)
      <*> required fields "save_count" int
      <*> required fields "comment_count" int
      <*> required fields "created_at" ItemMoment.read
      <*> required fields "scores" ItemScores.read

def FeedResponse.read : Reader R (FeedResponse R) :=
  record .notRecord fun fields =>
    FeedResponse.mk
      <$> required fields "identity_id" text
      <*> required fields "items" (list FeedItem.read)
      <*> defaulted fields "next_cursor" none (nullable text)
      <*> defaulted fields "has_next_page" false bool

def SimilarResponse.read : Reader R (SimilarResponse R) :=
  record .notRecord fun fields =>
    SimilarResponse.mk
      <$> required fields "post_id" text
      <*> required fields "items" (list FeedItem.read)

end PersonalFeed
