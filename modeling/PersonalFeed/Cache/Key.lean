import PersonalFeed.Settings.Limit
import PersonalFeed.Text.Basic

/-!
Keys of the cache. A key joins a root, the name of the kind of value and its parts by colons; the
parts are written as they are.
-/

set_option autoImplicit false

namespace PersonalFeed

def Artifact.keyName : Artifact → String
  | interestVector => "iv"
  | follows => "follows"
  | blocks => "blocks"
  | seen => "seen"
  | topics => "topics"
  | profile => "profile"
  | feedPage => "page"
  | similar => "similar"

/-- What a cached value belongs to. -/
inductive CacheKey where
  | interestVector (identity : Text)
  | follows (identity : Text)
  | blocks (identity : Text)
  | seen (identity : Text)
  | topics (identity : Text)
  | profile (identity : Text)
  /-- A page of a size after a cursor, under weights with a fingerprint. -/
  | page (identity fingerprint : Text) (size : Int) (cursor : Option Text)
  | similar (post requester : Text) (limit : Int)
  deriving DecidableEq, Repr

namespace CacheKey

def artifact : CacheKey → Artifact
  | interestVector _ => .interestVector
  | follows _ => .follows
  | blocks _ => .blocks
  | seen _ => .seen
  | topics _ => .topics
  | profile _ => .profile
  | page _ _ _ _ => .feedPage
  | similar _ _ _ => .similar

def startMark : Text := "start"

def cursorPart : Option Text → Text
  | none => startMark
  | some cursor => if cursor.isEmpty then startMark else cursor

def parts : CacheKey → List Text
  | interestVector identity => [identity]
  | follows identity => [identity]
  | blocks identity => [identity]
  | seen identity => [identity]
  | topics identity => [identity]
  | profile identity => [identity]
  | page identity fingerprint size cursor =>
    [identity, fingerprint, toString size, cursorPart cursor]
  | similar post requester limit => [post, requester, toString limit]

def join (root : Text) (artifact : Artifact) (parts : List Text) : Text :=
  Text.intercalate ":" (root :: artifact.keyName :: parts)

def text (root : Text) (key : CacheKey) : Text := join root key.artifact key.parts

/-- The part of a written key that names its kind: what follows the root up to the next colon. -/
def artifactName (root key : Text) : Text :=
  ⟨(key.codes.drop (root.length + 1)).takeWhile (· ≠ Code.char ':')⟩

/-- A part of a pattern: any text where nothing is asked for. -/
def patternPart : Option Text → Text
  | none => "*"
  | some part => if part.isEmpty then "*" else part

def pagesPattern (root : Text) (identity : Option Text) : Text :=
  join root .feedPage [patternPart identity, "*"]

def similarPattern (root : Text) (requester : Option Text) : Text :=
  join root .similar ["*", patternPart requester, "*"]

end CacheKey

end PersonalFeed
