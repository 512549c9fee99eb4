import PersonalFeed.Http.Route
import PersonalFeed.Service.Impressions
import PersonalFeed.Service.Interest
import PersonalFeed.Service.Invalidation
import PersonalFeed.Service.Similar

/-!
Replies over HTTP. Parameters and bodies are read by their schemas first; a bad request is refused
with its text, an outage is reported, and any other fault is shown without a reason.
-/

set_option autoImplicit false

namespace PersonalFeed.Http

open Schema

inductive Content (R : Type) where
  | nothing
  | document (value : Json R)
  | violations (violations : List Violation)

structure Reply (R : Type) where
  status : Nat
  content : Content R

variable {C R : Type}

def detail (status : Nat) (text : Text) : Reply R :=
  ⟨status, .document (.object [("detail", .string text)])⟩

def parameter? (query : List (String × String)) (name : String) : Option (Json R) :=
  (query.reverse.find? (·.1 = name)).map fun pair => .string pair.2

def requiredParameter {α : Type} (query : List (String × String)) (name : String)
    (read : Reader R α) : Checked α :=
  let found : Checked α :=
    match parameter? query name with
    | some value => read value
    | none => .problem .missing
  (found.within (.field name)).within (.field "query")

def optionalParameter {α : Type} (query : List (String × String)) (name : String)
    (read : Reader R α) : Checked (Option α) :=
  match parameter? query name with
  | some value => ((some <$> read value).within (.field name)).within (.field "query")
  | none => .valid none

def nonEmptyText : Reader R Text
  | .string s => if s.isEmpty then .problem .stringTooShort else .valid s
  | _ => .problem .notString

/-- A list of 1 up to a number of texts. A longer list is not read any further. -/
def boundedTexts (most : Nat) : Reader R (List Text)
  | .array items =>
    if most < items.length then .problem .tooLong
    else (itemsFrom text 0 items).andThen fun texts =>
      if texts.isEmpty then .problem .tooShort else .valid texts
  | _ => .problem .notList

/-- Read the body of a request. A body that is no document is no record. -/
def readBody {α : Type} (read : Reader R α) (body : Body R) : Checked α :=
  let found : Checked α :=
    match body with
    | .absent => .problem .missing
    | .document .null => .problem .missing
    | .document value => read value
    | .raw text => if text.isEmpty then .problem .missing else .problem .notBody
  found.within (.field "body")

def readImpressions : Reader R (Text × List Text) :=
  record .notBody fun fields =>
    Prod.mk <$> required fields "identity_id" text
      <*> required fields "post_ids" (boundedTexts impressionLimit)

variable [Numeral R]

def readFeed (query : List (String × String)) : Checked (FeedRequest R) :=
  let weight (name : String) : Checked (Text × Json R) :=
    (fun x : Option R => (.ofString name, Json.ofOption .real x)) <$>
      optionalParameter query ("w_" ++ name) real
  (fun identity size cursor similarity temporal diversity engagement privacy =>
      ⟨identity, .ofOption .int size, .ofOption .string cursor,
        [similarity, temporal, diversity, engagement, privacy]⟩)
    <$> requiredParameter (R := R) query "identity_id" nonEmptyText
    <*> optionalParameter (R := R) query "page_size" int
    <*> optionalParameter (R := R) query "cursor" text
    <*> weight "similarity" <*> weight "temporal" <*> weight "diversity" <*> weight "engagement"
    <*> weight "privacy"

def readSimilar (post : String) (query : List (String × String)) : Checked (SimilarRequest R) :=
  (fun requester limit => ⟨.string post, requester, .ofOption .int limit⟩)
    <$> requiredParameter (R := R) query "identity_id" nonEmptyText
    <*> optionalParameter (R := R) query "limit" int

def unexpected : Reply R := ⟨500, .nothing⟩

def reply (status : Nat) (value : Json R) : Reply R :=
  if isWhole value then ⟨status, .document (settled value)⟩ else unexpected

def replyToStop : Stop R → Reply R
  | .fault (.refused cause) => detail 400 (cause.message?.getD "")
  | .fault (.dimension shape) => detail 400 (((Fault.dimension shape : Fault R).message?).getD "")
  | .fault (.outage store reason) =>
    detail 503 (((Fault.outage store reason : Fault R).message?).getD "")
  | _ => unexpected

def replyOf (task : Task C R (Reply R)) : Program C R (Reply R) :=
  task.run >>= fun result =>
    match result with
    | .ok reply => .done reply
    | .error stop => .done (replyToStop stop)

def afterReading {α : Type} (input : Checked α) (next : α → Task C R (Reply R)) :
    Task C R (Reply R) :=
  match input with
  | .valid value => next value
  | .invalid violations => return ⟨422, .violations violations⟩

end PersonalFeed.Http
