import PersonalFeed.Http.Request

/-!
Routes of the service: the path and the methods of each endpoint. A path may end with a line break.
One that only lacks a slash at its end, or has some too many, is redirected.
-/

set_option autoImplicit false

namespace PersonalFeed.Http

inductive Endpoint where
  | feed
  | impressions
  | similar (post : String)
  | interest (identity : String)
  | events
  | health
  | metrics
  /-- A description of the endpoints, for readers or for programs. -/
  | manual
  deriving DecidableEq, Repr

def Endpoint.methods? : Endpoint → Option (List String)
  | feed | similar _ | health => some ["GET"]
  | impressions | interest _ | events => some ["POST"]
  | manual => some ["GET", "HEAD"]
  | metrics => none

def endpointAt? : List String → Option Endpoint
  | ["", "feed", ""] => some .feed
  | ["", "feed", "impressions"] => some .impressions
  | ["", "posts", post, "similar"] => if post = "" then none else some (.similar post)
  | ["", "users", identity, "interest-vector"] =>
    if identity = "" then none else some (.interest identity)
  | ["", "events"] => some .events
  | ["", "health"] => some .health
  | "" :: "metrics" :: step :: rest =>
    if (step :: rest).any fun step => step.toList.contains '\n' then none else some .metrics
  | ["", "docs"] | ["", "docs", "oauth2-redirect"] | ["", "redoc"] | ["", "openapi.json"] =>
    some .manual
  | _ => none

def withoutLineBreak (path : List Char) : List Char :=
  if path.getLast? = some '\n' then path.dropLast else path

def endpoint? (path : String) : Option Endpoint :=
  endpointAt? ((splitAt '/' (withoutLineBreak path.toList)).map String.ofList)

def toggleSlash (path : String) : String :=
  if path.toList.getLast? = some '/' then
    String.ofList (path.toList.reverse.dropWhile (· == '/')).reverse
  else path ++ "/"

inductive Route where
  | found (endpoint : Endpoint)
  | wrongMethod
  | redirected
  | unknown
  deriving DecidableEq, Repr

def route (method path : String) : Route :=
  match endpoint? path with
  | some endpoint =>
    match endpoint.methods? with
    | none => .found endpoint
    | some own => if own.contains method then .found endpoint else .wrongMethod
  | none =>
    if path ≠ "/" ∧ (endpoint? (toggleSlash path)).isSome then .redirected else .unknown

end PersonalFeed.Http
