import PersonalFeed.Cache.Store
import PersonalFeed.Http.Server

/-!
A deployment in memory: the stores behind a service, with rules that make some of their operations
fail, and points that the vector index is made to report. Tasks of the service run on it.
-/

set_option autoImplicit false

namespace PersonalFeed

/-- How a failing operation ends: with a reason, or not at all. -/
inductive Failure where
  | down (reason : String)
  | hang
  deriving DecidableEq, Repr

/-- The operations of the vector index, by the names that rules know them under. Those of the
relational store go by the names of their queries. -/
def searchName : String := "index search"

def retrievalName : String := "index retrieval"

def indexingName : String := "index update"

def openingName : String := "index opening"

/-- A rule that lets an operation succeed some times and fail some times after that, or always. -/
structure FailureRule where
  operation : String
  skip : Nat
  times : Option Nat
  failure : Failure
  deriving DecidableEq, Repr

/-- Whether an operation fails now, and the rules after that. The first rule that fails it ends the
search; the rules before it have let it pass. -/
def trigger (operation : String) : List FailureRule → Option Failure × List FailureRule
  | [] => (none, [])
  | rule :: rest =>
    let pass (rule : FailureRule) : Option Failure × List FailureRule :=
      let (failure, rest) := trigger operation rest
      (failure, rule :: rest)
    if rule.operation ≠ operation then pass rule
    else
      match rule.skip, rule.times with
      | skip + 1, _ => pass { rule with skip := skip }
      | 0, none => (some rule.failure, rule :: rest)
      -- A rule that is used up stays in its place, but it fails nothing any more.
      | 0, some 0 => pass rule
      | 0, some (times + 1) => (some rule.failure, { rule with times := some times } :: rest)

structure Deployment (C R : Type) where
  tables : Tables R
  cache : CacheStore R
  index : Index C
  /-- What every search reports, if not what is found. -/
  fixedSearch : Option (List (Hit C R))
  /-- What every retrieval reports, if not what is found. -/
  fixedRetrieval : Option (List (Hit C R))
  /-- The limits of all searches so far, the latest first. -/
  limits : List Int
  rules : List FailureRule
  metrics : Metrics R

namespace Deployment

variable {C R α : Type}

def empty [Scalar R] : Deployment C R := ⟨.empty, .empty, .empty, none, none, [], [], .empty⟩

def guarded (operation : String) (act : Deployment C R → Except Breakdown α × Deployment C R)
    (deployment : Deployment C R) : Outcome α × Deployment C R :=
  let (failure, rules) := trigger operation deployment.rules
  let deployment := { deployment with rules := rules }
  match failure with
  | some (.down reason) => (.down reason, deployment)
  | some .hang => (.silent, deployment)
  | none =>
    match act deployment with
    | (.ok value, deployment) => (.answer value, deployment)
    | (.error cause, deployment) => (.broken cause, deployment)

variable [Rooted R] [Component C R]

def reply : Program.Handler C R (Deployment C R)
  | .query query, deployment =>
    guarded query.name (fun deployment =>
      match query.run deployment.tables with
      | .ok (answer, tables) => (.ok answer, { deployment with tables := tables })
      | .error cause => (.error cause, deployment)) deployment
  | .search query limit exclusion, deployment =>
    guarded searchName (fun deployment =>
      let found :=
        match deployment.fixedSearch with
        | some hits => .ok hits
        | none => deployment.index.search query limit exclusion
      -- The limit is noted whatever comes of the search.
      (found, { deployment with limits := limit :: deployment.limits })) deployment
  | .retrieve ids, deployment =>
    guarded retrievalName (fun deployment =>
      match deployment.fixedRetrieval with
      | some hits => (.ok hits, deployment)
      | none => (.ok (deployment.index.retrieve ids), deployment)) deployment
  | .index id author vector, deployment =>
    guarded indexingName (fun deployment =>
      match deployment.index.add id author vector with
      | .ok index => (.ok (), { deployment with index := index })
      | .error cause => (.error cause, deployment)) deployment
  | .openIndex, deployment =>
    guarded openingName (fun deployment => (.ok (), deployment)) deployment
  | .read key, deployment => (deployment.cache.read key, deployment)
  | .write key value lifetime, deployment =>
    ((), { deployment with cache := deployment.cache.write key value lifetime })
  | .delete keys, deployment =>
    let (count, cache) := deployment.cache.delete keys
    (count, { deployment with cache := cache })
  | .scan pattern, deployment => (deployment.cache.scan pattern, deployment)
  | .count count, deployment => ((), { deployment with metrics := deployment.metrics.add count })

def run (deployment : Deployment C R) (program : Program C R α) : α × Deployment C R :=
  program.run reply deployment

def perform (deployment : Deployment C R) (task : Task C R α) :
    Except (Stop R) α × Deployment C R :=
  deployment.run task.run

end Deployment

end PersonalFeed
