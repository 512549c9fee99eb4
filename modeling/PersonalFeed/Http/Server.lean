import PersonalFeed.Http.Reply

/-!
The server: the reply to every request.
-/

set_option autoImplicit false

namespace PersonalFeed.Http

open Schema

variable {C R : Type} [Score R] [Component C R]

def replyAt (service : Service R) (name : Text) (request : Request R) :
    Endpoint → Task C R (Reply R)
  | .feed =>
    afterReading (readFeed request.query) fun asked => do
      return reply 200 (← service.rankFeed asked).toJson
  | .impressions =>
    afterReading (readBody readImpressions request.body) fun (identity, posts) => do
      let recorded ← service.recordImpressions identity (posts.map .string)
      return reply 202 (.object [("identity_id", .string identity), ("recorded", .int recorded)])
  | .similar post =>
    afterReading (readSimilar post request.query) fun asked => do
      return reply 200 (← service.similarPosts asked).toJson
  | .interest identity => do
    let rebuild ← service.rebuildInterest identity
    return reply 200 rebuild.toJson
  | .events =>
    afterReading (readBody (Event.readAs .notBody) request.body) fun event => do
      service.handleEvent event
      return reply 202 (.object [("applied", .string event.kind.name)])
  | .health => return reply 200 (.object [("status", .string "ok"), ("service", .string name)])
  -- Their texts are made by libraries, so only the status is told.
  | .metrics | .manual => return ⟨200, .nothing⟩

def replyByRoute (service : Service R) (name : Text) (request : Request R) :
    Program C R (Reply R) :=
  match route request.method request.path with
  | .found endpoint => replyOf (replyAt service name request endpoint)
  | .wrongMethod => .done (detail 405 "Method Not Allowed")
  | .redirected => .done ⟨307, .nothing⟩
  | .unknown => .done (detail 404 "Not Found")

omit [Score R] [Component C R] in
/-- A reply as it is sent: one to a question for the head alone carries nothing. -/
def sent (request : Request R) (reply : Reply R) : Reply R :=
  if request.method = "HEAD" then ⟨reply.status, .nothing⟩ else reply

def serve (service : Service R) (name : Text) (request : Request R) : Program C R (Reply R) :=
  sent request <$> replyByRoute service name request

end PersonalFeed.Http
