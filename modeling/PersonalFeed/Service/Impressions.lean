import PersonalFeed.PostId
import PersonalFeed.Service.Context

/-!
Impressions: the posts that were shown to a reader. They are recorded all or none.
-/

set_option autoImplicit false

namespace PersonalFeed.Service

variable {C R : Type}

def checkImpressions (identity : Text) (posts : List (Json R)) :
    Except (Refusal R) (List Text) := do
  if identity.isEmpty then .error .identityMissing
  else if posts.isEmpty ∨ impressionLimit < posts.length then .error .impressionCount
  else
    let ids ← posts.mapM (PostId.check "post_id")
    return ids.eraseDups

def recordImpressions (service : Service R) (identity : Text) (posts : List (Json R)) :
    Task C R Nat := do
  let ids ← Task.ofRefusal (checkImpressions identity posts)
  Task.bounded Task.databaseName (Task.query (.recordSeen identity ids service.now))
  drop [service.key (.seen identity)]
  let _ ← service.dropPages (some identity)
  return ids.length

end PersonalFeed.Service
