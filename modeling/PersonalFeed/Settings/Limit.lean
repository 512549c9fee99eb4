/-!
The limits that a ranking configuration has to keep, each with the text that reports it broken.
-/

set_option autoImplicit false

namespace PersonalFeed

/-- The kinds of cached values, in the order of their lifetimes in the configuration. -/
inductive Artifact where
  | interestVector
  | follows
  | blocks
  | seen
  | topics
  | profile
  | feedPage
  | similar
  deriving DecidableEq, Repr

def Artifact.all : List Artifact :=
  [.interestVector, .follows, .blocks, .seen, .topics, .profile, .feedPage, .similar]

def Artifact.settingName : Artifact → String
  | interestVector => "interest_vector"
  | follows => "follows"
  | blocks => "blocks"
  | seen => "seen"
  | topics => "topics"
  | profile => "profile"
  | feedPage => "feed_page"
  | similar => "similar"

inductive Limit where
  | overFetchFactor
  | diversityThreshold
  | decayRate
  | seenRetention
  | engagementCaps
  | engagementWeights
  | historyLimits
  | largestPage
  | defaultPage
  | timeout
  | lifetime (artifact : Artifact)
  deriving DecidableEq, Repr

def Limit.message : Limit → String
  | .overFetchFactor => "over_fetch_factor must be >= 1"
  | .diversityThreshold => "diversity_threshold must be between 0 and 1"
  | .decayRate => "temporal_decay_rate must be positive"
  | .seenRetention => "seen_retention_days must be >= 1"
  | .engagementCaps => "engagement caps must be positive"
  | .engagementWeights => "engagement weights must be non-negative"
  | .historyLimits => "recent_saves_limit and interest_source_limit must be >= 1"
  | .largestPage => "max_page_size must be >= 1"
  | .defaultPage => "default_page_size must be between 1 and max_page_size"
  | .timeout => "upstream_timeout_seconds must be positive"
  | .lifetime artifact => s!"ttl for '{artifact.settingName}' must be positive"

end PersonalFeed
