import PersonalFeed.Post
import PersonalFeed.Text.Alphanumeric
import PersonalFeed.Text.Digit
import PersonalFeed.Text.Lowercase
import PersonalFeed.Text.Ranges

/-!
Topics of a post: its tags and the words of its body. A word is a longest run of letters and
numbers of the lowered text. It is a topic when the sign `#` stands right before it, or when it has
at least three characters, is no stop word and has something other than digits.
-/

set_option autoImplicit false

namespace PersonalFeed

/-- A longest run of alphanumeric characters, and whether `#` stands right before it. -/
structure Word where
  letters : Text
  tagged : Bool
  deriving DecidableEq, Repr

namespace Word

def ofRun (run : List Code) (tagged : Bool) : List Word :=
  if run.isEmpty then [] else [⟨⟨run.reverse⟩, tagged⟩]

/-- The words of the rest of a text. `run` is the unfinished word in reverse, and `tagged` says
whether `#` stands before it. -/
def scan (run : List Code) (tagged : Bool) : List Code → List Word
  | [] => ofRun run tagged
  | code :: rest =>
    if Text.isAlphanumeric code then scan (code :: run) tagged rest
    else ofRun run tagged ++ scan [] (code == '#') rest

def ofText (text : Text) : List Word := scan [] false text.codes

end Word

namespace Topic

def stopWords : List Text := List.map .ofString [
  "the", "and", "for", "are", "but", "not", "you", "all", "any", "can", "had", "her", "was", "one",
  "our", "out", "day", "get", "has", "him", "his", "how", "man", "new", "now", "old", "see", "two",
  "way", "who", "boy", "did", "its", "let", "put", "say", "she", "too", "use", "that", "with",
  "have", "this", "will", "your", "from", "they", "know", "want", "been", "good", "much", "some",
  "time", "very", "when", "come", "here", "just", "like", "long", "make", "many", "more", "only",
  "over", "such", "take", "than", "them", "well", "were", "what", "about", "after", "again", "also",
  "back", "because", "before", "being", "could", "every", "first", "into", "most", "other",
  "really", "should", "still", "their", "there", "these", "thing", "think", "those", "through",
  "today", "where", "which", "while", "would"]

def shortestWord : Nat := 3

def isTopic (word : Word) : Bool :=
  word.tagged ||
    (shortestWord ≤ word.letters.length && !stopWords.contains word.letters &&
      !word.letters.codes.all Text.isDigit)

def ofText (text : Text) : List Text :=
  (((Word.ofText text.lower).filter isTopic).map (·.letters)).eraseDups

/-- A tag without the blanks around it and the signs `#` before it, in lower case. -/
def ofTag (tag : Text) : Text := Text.lower ⟨tag.strip.codes.dropWhile (· == Code.char '#')⟩

variable {C : Type}

/-- The topics of a post, each once; a tag without any character is none. -/
def ofPost (post : Post C) : List Text :=
  ((post.tags.map ofTag ++ ofText post.body).filter (!Text.isEmpty ·)).eraseDups

def ofPosts (posts : List (Post C)) : List Text := (posts.flatMap ofPost).eraseDups

variable {R : Type} [Scalar R]

open Scalar

def overlap (candidate recent : List Text) : R :=
  if candidate.isEmpty || recent.isEmpty then zero
  else ratio (candidate.countP recent.contains) candidate.length

def novelty (candidate recent : List Text) : R :=
  one - ratio 1 2 * overlap candidate recent

end Topic

end PersonalFeed
