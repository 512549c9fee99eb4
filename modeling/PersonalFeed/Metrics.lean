import PersonalFeed.Event
import PersonalFeed.Number.Scalar

/-!
What the service counts: look-ups of the cache, parts of a request that were lost, candidates by
stage, events, purged marks and ranked feeds. A labelled counter exists once it was counted.
-/

set_option autoImplicit false

namespace PersonalFeed

/-- The parts of a request that it can do without. -/
inductive Part where
  | interestVector
  | follows
  | blocks
  | seen
  | topics
  | profile
  | profileWeights
  | candidates
  | content
  | authors
  deriving DecidableEq, Repr

def Part.name : Part → String
  | interestVector => "interest_vector"
  | follows => "follows"
  | blocks => "blocks"
  | seen => "seen"
  | topics => "topics"
  | profile => "profile"
  | profileWeights => "profile_weights"
  | candidates => "candidates"
  | content => "content"
  | authors => "authors"

inductive LookupResult where
  | hit
  | miss
  | error
  deriving DecidableEq, Repr

def LookupResult.name : LookupResult → String
  | hit => "hit"
  | miss => "miss"
  | error => "error"

inductive Count where
  | lookup (artifact : Text) (result : LookupResult)
  | lost (part : Part)
  /-- The posts that the index found, those that the reader may see, and those that were ranked. -/
  | candidates (found visible ranked : Nat)
  | event (kind : EventKind)
  | purged (marks : Nat)
  /-- A feed whose request was in order. -/
  | feed
  deriving DecidableEq, Repr

structure Counter where
  name : String
  labels : List (String × Text)
  deriving DecidableEq, Repr

def Counter.text (counter : Counter) : Text :=
  if counter.labels.isEmpty then counter.name
  else
    let labels := counter.labels.map fun label => (label.1 ++ "=" : Text) ++ label.2
    counter.name ++ "\x7b" ++ .intercalate "," labels ++ "\x7d"

structure Metrics (R : Type) where
  labelled : List (Counter × Nat)
  purged : Nat
  feeds : Nat
  /-- The share of the last candidates that the reader could see. -/
  visibleShare : R

namespace Metrics

open Scalar

variable {R : Type} [Scalar R]

def empty : Metrics R := ⟨[], 0, 0, zero⟩

def raise (counter : Counter) (amount : Nat) : List (Counter × Nat) → List (Counter × Nat)
  | [] => [(counter, amount)]
  | (other, value) :: rest =>
    if other = counter then (other, value + amount) :: rest
    else (other, value) :: raise counter amount rest

def raiseLabelled (metrics : Metrics R) (name : String) (labels : List (String × Text))
    (amount : Nat) : Metrics R :=
  { metrics with labelled := raise ⟨name, labels⟩ amount metrics.labelled }

def stage (metrics : Metrics R) (name : String) (posts : Nat) : Metrics R :=
  metrics.raiseLabelled "feed_candidates_total" [("stage", .ofString name)] posts

def add (metrics : Metrics R) : Count → Metrics R
  | .lookup artifact result =>
    metrics.raiseLabelled "feed_cache_requests_total"
      [("artifact", artifact), ("result", .ofString result.name)] 1
  | .lost part => metrics.raiseLabelled "feed_degraded_total" [("signal", .ofString part.name)] 1
  | .candidates found visible ranked =>
    let counted := ((metrics.stage "retrieved" found).stage "visible" visible).stage "ranked" ranked
    { counted with visibleShare := if found = 0 then one else ratio visible found }
  | .event kind =>
    metrics.raiseLabelled "feed_invalidation_events_total" [("type", .ofString kind.name)] 1
  | .purged marks => { metrics with purged := metrics.purged + marks }
  | .feed => { metrics with feeds := metrics.feeds + 1 }

def samples (metrics : Metrics R) : List (Text × R) :=
  metrics.labelled.map (fun (counter, value) => (counter.text, ofInt value)) ++
    [(.ofString "feed_latency_seconds_count", ofInt metrics.feeds),
      (.ofString "feed_visibility_ratio", metrics.visibleShare),
      (.ofString "feed_seen_purged_total", ofInt metrics.purged)]

end Metrics

end PersonalFeed
