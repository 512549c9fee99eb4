import PersonalFeed.Post
import PersonalFeed.Sorting.Adaptive
import PersonalFeed.Vector.Embedding

/-!
Candidates before and after the ranking. A candidate carries its signals apart from diversity,
which depends on what is placed before it.
-/

set_option autoImplicit false

namespace PersonalFeed

/-- A post with everything the ranking needs to know of it. -/
structure Candidate (C R : Type) where
  post : Post C
  similarity : R
  engagement : R
  temporal : R
  privacy : R
  /-- How new its topics are, the diversity of a post without earlier neighbours. -/
  novelty : R
  seen : R
  contentType : Text
  vector : Option (Embedding C)

/-- A post with its place's scores. -/
structure Scored (C R : Type) where
  post : Post C
  similarity : R
  engagement : R
  temporal : R
  diversity : R
  privacy : R
  seen : R
  final : R
  contentType : Text

namespace Scored

variable {C R : Type} [Scalar R]

open Scalar

/-- Whether a post comes before another one: by final score, then by the later creation, then by the
smaller id. Scores that are no numbers come neither before nor after any other one. -/
def precedes (a b : Scored C R) : Bool :=
  if Scalar.eq a.final b.final then
    let (created, other) : R × R := (a.post.createdAt.seconds, b.post.createdAt.seconds)
    if Scalar.eq created other then a.post.id < b.post.id else lt other created
  else lt b.final a.final

/-- The list in the order of final scores; posts that tie in all respects keep their order. Where a
score is no number, the place of a post depends on the ones that it is compared with. -/
def ordered (scored : List (Scored C R)) : List (Scored C R) :=
  Sorting.sortStrays (fun s => isNaN s.final) precedes scored

end Scored

end PersonalFeed
