import PersonalFeed.Fault
import PersonalFeed.Json.Members
import PersonalFeed.Schema.Lax
import PersonalFeed.Text.Lowercase

/-!
Settings of a deployment: the stores it talks to, the lifetimes of what it caches, and the ranking.
Each setting has a default; values come from an environment and from direct overrides, which win.
The names of both count in any case. An override may also say how the environment is read.
-/

set_option autoImplicit false

namespace PersonalFeed

structure DatabaseSettings where
  host : Text
  port : Int
  user : Text
  password : Text
  database : Text
  createTables : Bool

structure CacheSettings where
  host : Text
  port : Int
  root : Text

structure Lifetimes where
  interestVector : Int
  follows : Int
  blocks : Int
  seen : Int
  topics : Int
  profile : Int
  feedPage : Int
  similar : Int

structure IndexSettings where
  host : Text
  port : Int
  collection : Text

structure MediaSettings where
  endpoint : Text
  accessKey : Text
  secretKey : Text
  bucket : Text
  lifetime : Int

structure StreamSettings where
  servers : Text
  topic : Text
  group : Text
  purgeInterval : Int

structure WeightSettings (R : Type) where
  similarity : R
  temporal : R
  diversity : R
  engagement : R
  privacy : R

structure RankingSettings (R : Type) where
  overFetchFactor : Int
  diversityThreshold : R
  decayRate : R
  seenRetentionDays : Int
  saveCap : Int
  commentCap : Int
  saveWeight : R
  commentWeight : R
  recentSavesLimit : Int
  interestSourceLimit : Int
  defaultPageSize : Int
  largestPageSize : Int
  timeoutSeconds : R

structure ReportSettings where
  endpoint : Text
  serviceName : Text
  environment : Text

structure Settings (R : Type) where
  database : DatabaseSettings
  cache : CacheSettings
  lifetimes : Lifetimes
  index : IndexSettings
  media : MediaSettings
  stream : StreamSettings
  weights : WeightSettings R
  ranking : RankingSettings R
  report : ReportSettings

def Lifetimes.get (lifetimes : Lifetimes) : Artifact → Int
  | .interestVector => lifetimes.interestVector
  | .follows => lifetimes.follows
  | .blocks => lifetimes.blocks
  | .seen => lifetimes.seen
  | .topics => lifetimes.topics
  | .profile => lifetimes.profile
  | .feedPage => lifetimes.feedPage
  | .similar => lifetimes.similar

namespace Settings

open Schema Scalar

variable {R : Type} [Numeral R]

def names : List Text := List.map .ofString [
  "tidb_host", "tidb_port", "tidb_user", "tidb_password", "tidb_database", "db_create_tables",
  "redis_host", "redis_port", "cache_prefix",
  "ttl_interest_vector", "ttl_follows", "ttl_blocks", "ttl_seen", "ttl_topics", "ttl_profile",
  "ttl_feed_page", "ttl_similar",
  "qdrant_host", "qdrant_port", "qdrant_collection",
  "minio_endpoint", "minio_access_key", "minio_secret_key", "minio_bucket", "media_url_ttl",
  "kafka_bootstrap_servers", "kafka_topic_invalidation", "kafka_consumer_group",
  "seen_purge_interval_seconds",
  "weight_similarity", "weight_temporal", "weight_diversity", "weight_engagement",
  "weight_privacy",
  "over_fetch_factor", "diversity_threshold", "temporal_decay_rate", "seen_retention_days",
  "engagement_save_cap", "engagement_comment_cap", "engagement_save_weight",
  "engagement_comment_weight", "recent_saves_limit", "interest_source_limit",
  "default_page_size", "max_page_size", "upstream_timeout_seconds",
  "otel_exporter_otlp_endpoint", "service_name", "environment"]

variable (given : List (Text × Json R))

def readDatabase : Checked DatabaseSettings :=
  DatabaseSettings.mk
    <$> defaulted given "tidb_host" "tidb" text
    <*> defaulted given "tidb_port" 4000 int
    <*> defaulted given "tidb_user" "root" text
    <*> defaulted given "tidb_password" "" text
    <*> defaulted given "tidb_database" "social_feed" text
    <*> defaulted given "db_create_tables" true bool

def readCache : Checked CacheSettings :=
  CacheSettings.mk
    <$> defaulted given "redis_host" "redis" text
    <*> defaulted given "redis_port" 6379 int
    <*> defaulted given "cache_prefix" "discovery" text

def readLifetimes : Checked Lifetimes :=
  Lifetimes.mk
    <$> defaulted given "ttl_interest_vector" 1800 int
    <*> defaulted given "ttl_follows" 1800 int
    <*> defaulted given "ttl_blocks" 1800 int
    <*> defaulted given "ttl_seen" 3600 int
    <*> defaulted given "ttl_topics" 600 int
    <*> defaulted given "ttl_profile" 600 int
    <*> defaulted given "ttl_feed_page" 300 int
    <*> defaulted given "ttl_similar" 900 int

def readIndex : Checked IndexSettings :=
  IndexSettings.mk
    <$> defaulted given "qdrant_host" "qdrant" text
    <*> defaulted given "qdrant_port" 6333 int
    <*> defaulted given "qdrant_collection" "posts" text

def readMedia : Checked MediaSettings :=
  MediaSettings.mk
    <$> defaulted given "minio_endpoint" "minio:9000" text
    <*> defaulted given "minio_access_key" "minioadmin" text
    <*> defaulted given "minio_secret_key" "minioadmin" text
    <*> defaulted given "minio_bucket" "media" text
    <*> defaulted given "media_url_ttl" 3600 int

def readStream : Checked StreamSettings :=
  StreamSettings.mk
    <$> defaulted given "kafka_bootstrap_servers" "kafka:9092" text
    <*> defaulted given "kafka_topic_invalidation" "feed-invalidation" text
    <*> defaulted given "kafka_consumer_group" "discovery-invalidation" text
    <*> defaulted given "seen_purge_interval_seconds" 3600 int

def readWeights : Checked (WeightSettings R) :=
  WeightSettings.mk
    <$> defaulted given "weight_similarity" (ratio 3 10) real
    <*> defaulted given "weight_temporal" (ratio 1 5) real
    <*> defaulted given "weight_diversity" (ratio 1 5) real
    <*> defaulted given "weight_engagement" (ratio 1 5) real
    <*> defaulted given "weight_privacy" (ratio 1 10) real

def readRanking : Checked (RankingSettings R) :=
  RankingSettings.mk
    <$> defaulted given "over_fetch_factor" 10 int
    <*> defaulted given "diversity_threshold" (ratio 7 10) real
    <*> defaulted given "temporal_decay_rate" (ratio 1 10) real
    <*> defaulted given "seen_retention_days" 30 int
    <*> defaulted given "engagement_save_cap" 100 int
    <*> defaulted given "engagement_comment_cap" 50 int
    <*> defaulted given "engagement_save_weight" (ratio 1 2) real
    <*> defaulted given "engagement_comment_weight" (ratio 1 2) real
    <*> defaulted given "recent_saves_limit" 50 int
    <*> defaulted given "interest_source_limit" 50 int
    <*> defaulted given "default_page_size" 20 int
    <*> defaulted given "max_page_size" 100 int
    <*> defaulted given "upstream_timeout_seconds" (ofInt 2) real

def readReport : Checked ReportSettings :=
  ReportSettings.mk
    <$> defaulted given "otel_exporter_otlp_endpoint" "http://jaeger:4317" text
    <*> defaulted given "service_name" "discovery-service" text
    <*> defaulted given "environment" "development" text

def unknownNames : List Violation :=
  (given.filter fun field => !names.contains field.1).map fun field =>
    ⟨[.field field.1], .unknownField⟩

def read : Checked (Settings R) :=
  let settings := Settings.mk
    <$> readDatabase given
    <*> readCache given
    <*> readLifetimes given
    <*> readIndex given
    <*> readMedia given
    <*> readStream given
    <*> readWeights given
    <*> readRanking given
    <*> readReport given
  match settings, unknownNames given with
  | .valid settings, [] => .valid settings
  | .valid _, unknown => .invalid unknown
  | .invalid violations, unknown => .invalid (violations ++ unknown)

/-- Whether a place of a text can stand in an environment. A byte that is part of no character
stands there as half of one. -/
def isEnvironmentCode (code : Code) : Bool :=
  code.char?.isSome || (0xDC80 ≤ code.number && code.number ≤ 0xDCFF)

/-- Why a name and its value cannot stand in an environment: a zero ends a text there, and a name
ends at the sign before its value. -/
def environmentFlaw? (name value : Text) : Option Breakdown :=
  if !(name ++ value).codes.all isEnvironmentCode then some .unencodable
  else if (name ++ value).codes.contains '\x00' || name.codes.contains '=' then some .unreadable
  else none

structure Lookup where
  /-- How the names of settings start. -/
  root : Text
  /-- Whether names count only as they are written. -/
  isExact : Bool
  /-- Whether an empty value is as good as none. -/
  skipsEmpty : Bool
  /-- The value that stands for nothing. -/
  nothing? : Option Text

namespace Lookup

/-- Overrides about the reading itself. Those beyond the four that a lookup holds have no effect on
settings of a single value each. -/
def optionNames : List Text := List.map .ofString [
  "_env_prefix", "_case_sensitive", "_env_ignore_empty", "_env_parse_none_str",
  "_env_file_encoding", "_env_nested_delimiter", "_env_nested_max_split", "_env_parse_enums"]

def ofOverrides (overrides : List (Text × Json R)) : Lookup where
  root := ((Json.find? "_env_prefix" overrides).bind Json.text?).getD "DISCOVERY_"
  isExact := (Json.find? "_case_sensitive" overrides).any fun value => !value.isAbsent
  skipsEmpty := (Json.find? "_env_ignore_empty" overrides).any fun value => !value.isAbsent
  nothing? := (Json.find? "_env_parse_none_str" overrides).bind Json.text?

def normal (lookup : Lookup) (name : Text) : Text :=
  if lookup.isExact then name else name.lower

/-- The settings that an environment holds; what is no setting is passed over. -/
def ofEnvironment (lookup : Lookup) (environment : List (Text × Text)) : List (Text × Json R) :=
  let root := lookup.normal lookup.root
  Json.merge <| environment.filterMap fun (name, value) =>
    let normal := lookup.normal name
    let setting := normal.drop root.length
    if lookup.skipsEmpty ∧ value.isEmpty then none
    else if normal.startsWith root ∧ names.contains setting then
      some (setting, if lookup.nothing? = some value then .null else .string value)
    else none

def settingName (lookup : Lookup) (name : Text) : Text :=
  if names.contains (lookup.normal name) then lookup.normal name else name

/-- The settings that are overridden. Of several values for one of them the first counts. -/
def ofNamed (lookup : Lookup) (overrides : List (Text × Json R)) : List (Text × Json R) :=
  let named := overrides.filterMap fun (name, value) =>
    if optionNames.contains name then none else some (lookup.settingName name, value)
  (Json.merge named.reverse).reverse

end Lookup

def load (environment : List (Text × Text)) (overrides : List (Text × Json R)) :
    Checked (Settings R) :=
  let lookup := Lookup.ofOverrides overrides
  read (Json.merge (lookup.ofEnvironment environment ++ lookup.ofNamed overrides))

def databaseUrl (settings : Settings R) : Text :=
  let d := settings.database
  "mysql+aiomysql://" ++ d.user ++ ":" ++ d.password ++ "@" ++ d.host ++ ":" ++ toString d.port ++
    "/" ++ d.database

end Settings

end PersonalFeed
