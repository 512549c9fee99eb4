import PersonalFeed.Fault
import PersonalFeed.Post
import PersonalFeed.Text.Lowercase
import PersonalFeed.Text.Ranges

/-!
What a post holds: the class of its content, and whether it mentions a keyword that the reader has
muted.
-/

set_option autoImplicit false

namespace PersonalFeed

inductive ContentType where
  | text
  | image
  | video
  | mixed
  deriving DecidableEq, Repr

namespace ContentType

def all : List ContentType := [text, image, video, mixed]

def name : ContentType → String
  | text => "text"
  | image => "image"
  | video => "video"
  | mixed => "mixed"

def ofName? (name : Text) : Option ContentType := all.find? (·.name = name)

variable {C : Type}

def ofPost (post : Post C) : ContentType :=
  match post.contentType.bind ofName? with
  | some stored => stored
  | none =>
    let hasText := !post.body.strip.isEmpty
    match post.mediaType.bind ofName? with
    | some .image => if hasText then mixed else image
    | some .video => if hasText then mixed else video
    | _ => text

end ContentType

def occursIn (part : List Code) : List Code → Bool
  | [] => part.isEmpty
  | code :: rest => part.isPrefixOf (code :: rest) || occursIn part rest

/-- Whether a body that is lowered already mentions a keyword; the empty keyword is never found. -/
def mentions (body keyword : Text) : Bool :=
  !keyword.isEmpty && occursIn keyword.lower.codes body.codes

variable {C R : Type} [Scalar R]

open Scalar

/-- A tenth for a post that mentions a muted keyword, else one. The keywords are read in order up to
the first one that is mentioned; a value that counts as absent is passed over, any other that is no
text is a fault. -/
def privacyScore? (muted : List (Json R)) (post : Post C) : Except (Fault R) R :=
  let body := post.body.lower
  let rec search : List (Json R) → Except (Fault R) R
    | [] => .ok one
    | keyword :: rest =>
      match keyword with
      | .string text => if mentions body text then .ok (ratio 1 10) else search rest
      | other => if other.isAbsent then search rest else .error (.broken .noMember)
  search muted

end PersonalFeed
