import PersonalFeed.Proofs.Cache.Distinct
import PersonalFeed.Proofs.Exposure.Blocks

/-!
A block while feeds are in flight. Requests of a reader, the commit of a block and the handling of
its event take turns, one call at a time and in any order, but the event is not handled before the
block is committed. What is told of the traffic is who was given a set of blocks without the author,
and what was stored of it once the handling began.
-/

set_option autoImplicit false

namespace PersonalFeed

structure Blocking where
  reader : Text
  author : Text
  isByAuthor : Bool

namespace Blocking

def edge (blocking : Blocking) : Text × Text :=
  if blocking.isByAuthor then (blocking.author, blocking.reader)
  else (blocking.reader, blocking.author)

def change (blocking : Blocking) : Change := .addBlock blocking.edge

variable {R : Type} {blocking : Blocking}

theorem edge_cases (blocking : Blocking) :
    blocking.edge = (blocking.reader, blocking.author) ∨
      blocking.edge = (blocking.author, blocking.reader) := by
  unfold edge
  split
  · exact .inr rfl
  · exact .inl rfl

theorem reader_mem_parties (someone : blocking.reader.isEmpty = false) :
    blocking.reader ∈ blocking.change.event.parties := by
  refine Event.mem_parties ?_ someone
  rcases blocking.edge_cases with made | made <;> simp [made]

theorem of_apply {tables after : Tables R} (differ : blocking.reader ≠ blocking.author)
    (applied : blocking.change.apply tables = .ok after) :
    blocking.reader.isWhole = true ∧ blocking.author.isWhole = true ∧
      blocking.author ∈ after.blocked blocking.reader := by
  have whole : ∀ name ∈ [blocking.edge.1, blocking.edge.2], name.isWhole = true :=
    Change.isWhole_of_apply applied
  have stored : blocking.edge ∈ after.blocks := by
    obtain ⟨-, rfl⟩ := Tables.ok_of_refusing applied
    exact self_mem_upsert id _ _
  rcases blocking.edge_cases with made | made <;> rw [made] at whole stored
  · exact ⟨whole _ List.mem_cons_self, whole _ (List.mem_cons_of_mem _ List.mem_cons_self),
      Tables.mem_blocked differ (.inl stored)⟩
  · exact ⟨whole _ (List.mem_cons_of_mem _ List.mem_cons_self), whole _ List.mem_cons_self,
      Tables.mem_blocked differ (.inr stored)⟩

theorem isWhole_parties (reader : blocking.reader.isWhole = true)
    (author : blocking.author.isWhole = true) :
    ∀ party ∈ blocking.change.event.parties, party.isWhole = true := by
  intro party side
  have sides := Event.party_cases side
  rcases blocking.edge_cases with made | made <;>
    simp only [change, Change.event, made, Option.some.injEq] at sides <;>
    rcases sides with rfl | rfl <;> assumption

end Blocking

variable {C R : Type}

def Service.Asks [Score R] [Component C R] (service : Service R) (reader : Text)
    (program : Program C R (Except (Stop R) (FeedResponse R))) : Prop :=
  ∃ now request, ({ service with now := now }).Courses request program ∧ request.identity = reader

def Call.omits [Numeral R] (root reader author : Text) : (call : Call C R) → call.Reply → Bool
  | .query (.blocked identity), .answer ids =>
    identity = reader && !(ids : List Text).contains author
  | .read key, .found entry =>
    ((CacheKey.blocks reader).text root).toString? = some key && entry.lacks author
  | _, _ => false

def Call.tells (root : Text) : Call C R → Bool
  | .write key _ _ => [Artifact.blocks, .feedPage, .similar].any fun artifact =>
    CacheKey.artifactName root key = artifact.keyName
  | _ => false

structure Running (C R : Type) where
  rest : Program C R (Except (Stop R) (FeedResponse R))
  /-- Whether it was given a set of blocks without the author before the handling began. -/
  isOutdated : Bool
  /-- Whether it started after the event was handled. -/
  isLate : Bool

def Running.shows (author : Text) (running : Running C R) : Bool :=
  match running.rest with
  | .done (.ok response) => response.items.any fun item => item.authorId = author
  | _ => false

/-- Stores in use by requests of a reader while a block is made and handled. -/
structure Traffic (C R : Type) where
  deployment : Deployment C R
  requests : List (Running C R)
  isCommitted : Bool
  /-- What is left of the handling once it has begun. -/
  handling : Option (Program C R (Except (Stop R) Unit))
  /-- Whether an outdated request stored a set of blocks or an answer after the handling began. -/
  isOvertaken : Bool

inductive Move (C R : Type) where
  | start (program : Program C R (Except (Stop R) (FeedResponse R)))
  /-- One call of the request at a place. -/
  | advance (place : Nat)
  | commit
  /-- One call of the handling. -/
  | handle

namespace Traffic

def quiet (deployment : Deployment C R) : Traffic C R := ⟨deployment, [], false, none, false⟩

def isHandled (traffic : Traffic C R) : Bool :=
  match traffic.handling with
  | some (.done _) => true
  | _ => false

variable [Score R] [Component C R]

def advance (service : Service R) (blocking : Blocking) (traffic : Traffic C R) (place : Nat) :
    Traffic C R :=
  match traffic.requests[place]? with
  | some ⟨.ask call next, isOutdated, isLate⟩ =>
    let (reply, deployment) := Deployment.reply call traffic.deployment
    let omits := call.omits service.root blocking.reader blocking.author reply
    let running := ⟨next reply, isOutdated || traffic.handling.isNone && omits, isLate⟩
    { traffic with
      deployment := deployment
      requests := traffic.requests.set place running
      isOvertaken := traffic.isOvertaken ||
        traffic.handling.isSome && isOutdated && call.tells service.root }
  | _ => traffic

/-- One move. The event is not handled before the block is committed. -/
def take (service : Service R) (blocking : Blocking) (traffic : Traffic C R) :
    Move C R → Traffic C R
  | .start program =>
    { traffic with requests := traffic.requests ++ [⟨program, false, traffic.isHandled⟩] }
  | .advance place => traffic.advance service blocking place
  | .commit =>
    match blocking.change.apply traffic.deployment.tables with
    | .ok tables =>
      { traffic with
        deployment := { traffic.deployment with tables := tables }
        isCommitted := true }
    | .error _ => traffic
  | .handle =>
    match traffic.isCommitted,
      traffic.handling.getD (service.handleEvent blocking.change.event).run with
    | true, .ask call next =>
      let (reply, deployment) := Deployment.reply call traffic.deployment
      { traffic with deployment := deployment, handling := some (next reply) }
    | true, .done result => { traffic with handling := some (.done result) }
    | false, _ => traffic

def takeAll (service : Service R) (blocking : Blocking) (traffic : Traffic C R)
    (moves : List (Move C R)) : Traffic C R :=
  moves.foldl (take service blocking) traffic

end Traffic

section

variable [Numeral R] {root reader author : Text} {call : Call C R}

theorem admits_of_distrust (reply : call.Reply) :
    (apart root reader author fun _ => False).admits call reply := by
  cases call with
  | query query =>
    cases query with
    | blocked identity => exact fun distrusted => distrusted.elim
    | _ => trivial
  | read key => exact fun _ _ _ _ _ distrusted => distrusted.elim
  | search | retrieve | index | openIndex | write | delete | scan | count => trivial

/-- A set of blocks that is given out has the author, if it does not omit the author. -/
theorem admits_of_omits {reply : call.Reply} (has : call.omits root reader author reply = false) :
    (apart root reader author (· = .blocks reader)).admits call reply := by
  cases call with
  | query query =>
    cases query with
    | blocked identity =>
      rintro - rfl ids rfl
      simpa [Call.omits] using has
    | _ => trivial
  | read key =>
    rintro entry rfl name - encoded rfl -
    simpa [Call.omits, encoded] using has
  | search | retrieve | index | openIndex | write | delete | scan | count => trivial

/-- What neither stores a set of blocks nor an answer keeps any two people apart. -/
theorem allows_of_tells (allowed : (apart root reader author fun _ => False).allows call)
    (silent : call.tells root = false) : (apart root reader author fun _ => True).allows call := by
  cases call with
  | write key value lifetime =>
    obtain ⟨name, proper, rfl, -⟩ := allowed
    refine ⟨name, proper, rfl, fun _ => ?_⟩
    simp only [Call.tells, CacheKey.artifactName_text] at silent
    cases name with
    | blocks | page | similar => exact absurd silent (by simp [CacheKey.artifact])
    | interestVector | follows | seen | topics | profile => trivial
  | query | search | retrieve | index | openIndex | read | delete | scan | count => exact allowed

end

end PersonalFeed
