import PersonalFeed.Proofs.Results
import PersonalFeed.Service.Similar

/-!
The two kinds of requests that show posts, as one, and a service with the settings that stand where
none are given.
-/

set_option autoImplicit false

namespace PersonalFeed

inductive Request (R : Type) where
  | feed (request : FeedRequest R)
  | similar (request : SimilarRequest R)

inductive Answer (R : Type) where
  | feed (response : FeedResponse R)
  | similar (response : SimilarResponse R)

def Lifetimes.standard : Lifetimes := ⟨1800, 1800, 1800, 3600, 600, 600, 300, 900⟩

open Scalar in
def RankingSettings.standard {R : Type} [Scalar R] : RankingSettings R where
  overFetchFactor := 10
  diversityThreshold := ratio 7 10
  decayRate := ratio 1 10
  seenRetentionDays := 30
  saveCap := 100
  commentCap := 50
  saveWeight := ratio 1 2
  commentWeight := ratio 1 2
  recentSavesLimit := 50
  interestSourceLimit := 50
  defaultPageSize := 20
  largestPageSize := 100
  timeoutSeconds := ofInt 2

theorem Settings.read_nothing {R : Type} [Numeral R] :
    ∃ settings : Settings R, Settings.read [] = .valid settings ∧
      Config.weightOf settings.weights = (Weights.default : Weights R).get ∧
      settings.ranking = .standard ∧ settings.lifetimes = .standard :=
  ⟨_, rfl, funext fun signal => by cases signal <;> rfl, rfl, rfl⟩

def Service.standard {R : Type} [Scalar R] (root : Text) (now : Timestamp) : Service R where
  config := ⟨.default, .standard, .standard⟩
  root := root
  sign := none
  now := now

variable {C R : Type}

def Request.requester : Request R → Text
  | feed request => request.identity
  | similar request => request.requester

def Answer.items : Answer R → List (FeedItem R)
  | feed response => response.items
  | similar response => response.items

def Service.answer [Score R] [Component C R] (service : Service R) :
    Request R → Task C R (Answer R)
  | .feed request => do return .feed (← service.rankFeed request)
  | .similar request => do return .similar (← service.similarPosts request)

section

variable [Score R] {config : Config R} {request : FeedRequest R} {query : FeedQuery R}

structure FeedRequest.ReadsAs (config : Config R) (request : FeedRequest R)
    (query : FeedQuery R) : Prop where
  named : request.identity.isEmpty = false
  identity : query.identity = request.identity
  size : Service.pageSize config request.pageSize = .ok query.pageSize
  cursor : PostId.checkCursor request.cursor = .ok query.cursor
  overrides : query.overrides = request.overrides
  accepted : ∃ weights, config.weights.withOverrides request.overrides = .ok weights

namespace Service

theorem checkFeed_ok_iff :
    checkFeed config request = .ok query ↔ request.ReadsAs config query := by
  constructor
  · intro checked
    unfold checkFeed at checked
    split at checked
    · cases checked
    · rename_i named
      obtain ⟨size, sized, checked⟩ := ok_of_bind checked
      obtain ⟨cursor, placed, checked⟩ := ok_of_bind checked
      obtain ⟨weights, accepted, checked⟩ := ok_of_bind checked
      cases checked
      exact ⟨Bool.eq_false_iff.2 named, rfl, sized, placed, rfl, weights, accepted⟩
  · rintro ⟨named, identity, sized, placed, overrides, weights, accepted⟩
    obtain ⟨reader, size, cursor, given⟩ := query
    cases identity
    cases overrides
    unfold checkFeed
    rw [if_neg (Bool.eq_false_iff.1 named), sized, placed, accepted]
    rfl

theorem identity_of_checkFeed (checked : checkFeed config request = .ok query) :
    query.identity = request.identity := (checkFeed_ok_iff.1 checked).identity

theorem cursor_of_checkFeed (checked : checkFeed config request = .ok query) :
    PostId.checkCursor request.cursor = .ok query.cursor := (checkFeed_ok_iff.1 checked).cursor

theorem overrides_of_checkFeed (checked : checkFeed config request = .ok query) :
    query.overrides = request.overrides := (checkFeed_ok_iff.1 checked).overrides

theorem accepted_of_checkFeed (checked : checkFeed config request = .ok query) :
    ∃ weights, config.weights.withOverrides query.overrides = .ok weights := by
  have reads := checkFeed_ok_iff.1 checked
  exact reads.overrides ▸ reads.accepted

end Service

end

end PersonalFeed
