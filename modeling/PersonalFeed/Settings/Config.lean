import PersonalFeed.Settings.Basic
import PersonalFeed.Signal.Engagement
import PersonalFeed.Weights.Basic

/-!
The ranking configuration: the part of the settings that has to keep its limits. A service is only
started with a configuration that keeps all of them.
-/

set_option autoImplicit false

namespace PersonalFeed

open Scalar

/-- The parameters of the ranking, checked. -/
structure Config (R : Type) where
  weights : Weights R
  ranking : RankingSettings R
  lifetimes : Lifetimes

namespace Config

section Limits

variable {R : Type} [Scalar R]

def caps (config : Config R) : EngagementCaps R where
  saveCap := config.ranking.saveCap
  commentCap := config.ranking.commentCap
  saveWeight := config.ranking.saveWeight
  commentWeight := config.ranking.commentWeight

def breaks (config : Config R) : Limit → Bool
  | .overFetchFactor => config.ranking.overFetchFactor < 1
  | .diversityThreshold =>
    !(le zero config.ranking.diversityThreshold && le config.ranking.diversityThreshold one)
  | .decayRate => !lt zero config.ranking.decayRate
  | .seenRetention => config.ranking.seenRetentionDays < 1
  | .engagementCaps => config.ranking.saveCap ≤ 0 || config.ranking.commentCap ≤ 0
  | .engagementWeights =>
    isNegative config.ranking.saveWeight || isNegative config.ranking.commentWeight
  | .historyLimits => config.ranking.recentSavesLimit < 1 || config.ranking.interestSourceLimit < 1
  | .largestPage => config.ranking.largestPageSize < 1
  | .defaultPage =>
    config.ranking.defaultPageSize < 1 ||
      config.ranking.largestPageSize < config.ranking.defaultPageSize
  | .timeout => !lt zero config.ranking.timeoutSeconds
  | .lifetime artifact => config.lifetimes.get artifact ≤ 0

def limits : List Limit := [
  .overFetchFactor, .diversityThreshold, .decayRate, .seenRetention, .engagementCaps,
  .engagementWeights, .historyLimits, .largestPage, .defaultPage, .timeout,
  .lifetime .interestVector, .lifetime .follows, .lifetime .blocks, .lifetime .seen,
  .lifetime .topics, .lifetime .profile, .lifetime .feedPage, .lifetime .similar]

def broken (config : Config R) : List Limit := limits.filter config.breaks

end Limits

variable {R : Type}

def weightOf (weights : WeightSettings R) : Signal → R
  | .similarity => weights.similarity
  | .temporal => weights.temporal
  | .diversity => weights.diversity
  | .engagement => weights.engagement
  | .privacy => weights.privacy

def toJson (config : Config R) : Json R :=
  let r := config.ranking
  .object [
    ("weights", config.weights.toJson), ("over_fetch_factor", .int r.overFetchFactor),
    ("diversity_threshold", .real r.diversityThreshold),
    ("temporal_decay_rate", .real r.decayRate), ("seen_retention_days", .int r.seenRetentionDays),
    ("engagement", .object [
      ("save_cap", .int r.saveCap), ("comment_cap", .int r.commentCap),
      ("save_weight", .real r.saveWeight), ("comment_weight", .real r.commentWeight)]),
    ("recent_saves_limit", .int r.recentSavesLimit),
    ("interest_source_limit", .int r.interestSourceLimit),
    ("default_page_size", .int r.defaultPageSize), ("max_page_size", .int r.largestPageSize),
    ("upstream_timeout_seconds", .real r.timeoutSeconds),
    ("ttls", .object (Artifact.all.map fun artifact =>
      (.ofString artifact.settingName, .int (config.lifetimes.get artifact))))]

variable [Numeral R]

/-- The configuration that settings describe: first the weights are checked, then the limits. -/
def ofSettings (settings : Settings R) : Except (Fault R) (Config R) := do
  let weights ← (Weights.check fun signal => .real (weightOf settings.weights signal)).mapError
    Weights.flawFault
  let config : Config R := ⟨weights, settings.ranking, settings.lifetimes⟩
  if config.broken.isEmpty then return config
  else .error (.configuration (.limits config.broken))

def load (environment : List (Text × Text)) (overrides : List (Text × Json R)) :
    Except (Fault R) (Config R) :=
  match environment.findSome? fun (name, value) => Settings.environmentFlaw? name value with
  | some cause => .error (.broken cause)
  | none =>
    match Settings.load environment overrides with
    | .valid settings => ofSettings settings
    | .invalid violations => .error (.configuration (.settings violations))

end Config

end PersonalFeed
