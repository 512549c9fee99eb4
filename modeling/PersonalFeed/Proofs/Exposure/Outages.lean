import PersonalFeed.Deployment
import PersonalFeed.Proofs.Exposure.Answers
import PersonalFeed.Proofs.Number.Exact
import PersonalFeed.Proofs.Requests

/-!
Requests one after another while stores fail. Any call may be made to fail, the index may hold and
report anything, and each request runs at a moment of its own; the cache goes on from one request to
the next. Whatever is answered, its items may be shown to the one who asked.
-/

set_option autoImplicit false

namespace PersonalFeed

variable {C R : Type}

def Failure.outcome {α : Type} : Failure → Outcome α
  | .down reason => .down reason
  | .hang => .silent

/-- The reply to a call that fails. The cache replies that nothing was done. -/
def Call.failed (failure : Failure) : (call : Call C R) → call.Reply
  | .query _ | .search _ _ _ | .retrieve _ | .index _ _ _ | .openIndex => failure.outcome
  | .read _ => .off
  | .write _ _ _ | .count _ => ()
  | .delete _ | .scan _ => none

/-- A request, and the world while it runs. -/
structure Turn (C R : Type) where
  request : Request R
  now : Timestamp
  /-- How the call at a place in the request fails, if it does. -/
  fails : Nat → Call C R → Option Failure
  index : Index C
  fixedSearch : Option (List (Hit C R))
  fixedRetrieval : Option (List (Hit C R))

variable [Score R] [Component C R]

def Deployment.replyUnless (fails : Nat → Call C R → Option Failure) :
    Program.Handler C R (Nat × Deployment C R)
  | call, (place, deployment) =>
    match fails place call with
    | some failure => (call.failed failure, place + 1, deployment)
    | none =>
      let (reply, deployment) := Deployment.reply call deployment
      (reply, place + 1, deployment)

theorem Deployment.replyUnless_some {fails : Nat → Call C R → Option Failure} {call : Call C R}
    {place : Nat} {failure : Failure} (fault : fails place call = some failure)
    (deployment : Deployment C R) :
    replyUnless fails call (place, deployment) = (call.failed failure, place + 1, deployment) := by
  simp only [replyUnless, fault]

theorem Deployment.replyUnless_none {fails : Nat → Call C R → Option Failure} {call : Call C R}
    {place : Nat} (works : fails place call = none) (deployment : Deployment C R) :
    replyUnless fails call (place, deployment) =
      ((reply call deployment).1, place + 1, (reply call deployment).2) := by
  simp only [replyUnless, works]

def Turn.serve (service : Service R) (turn : Turn C R) (deployment : Deployment C R) :
    Except (Stop R) (Answer R) × Deployment C R :=
  let world := { deployment with
    index := turn.index
    fixedSearch := turn.fixedSearch
    fixedRetrieval := turn.fixedRetrieval }
  let service := { service with now := turn.now }
  let (result, _, deployment) :=
    (service.answer turn.request).run.run (Deployment.replyUnless turn.fails) (0, world)
  (result, deployment)

/-- Take turns one after another. Each comes with its result. -/
def serveAll (service : Service R) :
    List (Turn C R) → Deployment C R → List (Turn C R × Except (Stop R) (Answer R))
  | [], _ => []
  | turn :: rest, deployment =>
    let (result, deployment) := turn.serve service deployment
    (turn, result) :: serveAll service rest deployment

/-- The cache of a deployment over some tables exposes nothing that it must not. -/
structure Deployment.IsSafe (root : Text) (tables : Tables R) (deployment : Deployment C R) :
    Prop where
  tables_eq : deployment.tables = tables
  cache : deployment.cache.Holds root tables.Safe

namespace Deployment

omit [Score R] [Component C R] in
/-- A guarded operation fails, or ends as it does on stores with some rules. -/
theorem guarded_cases {α : Type} (operation : String)
    (act : Deployment C R → Except Breakdown α × Deployment C R) (deployment : Deployment C R) :
    ∃ rules, (∃ failure : Failure,
        guarded operation act deployment = (failure.outcome, { deployment with rules := rules })) ∨
      guarded operation act deployment =
        (match (act { deployment with rules := rules }).1 with
          | .ok value => .answer value
          | .error cause => .broken cause, (act { deployment with rules := rules }).2) := by
  refine ⟨(trigger operation deployment.rules).2, ?_⟩
  unfold guarded
  dsimp only
  split
  · rename_i reason _
    exact .inl ⟨.down reason, rfl⟩
  · exact .inl ⟨.hang, rfl⟩
  · right
    split <;> rename_i ended <;> rw [ended]

omit [Score R] [Component C R] in
theorem outcome_ne_answer {α : Type} (failure : Failure) (value : α) :
    (failure.outcome : Outcome α) ≠ .answer value := by
  cases failure <;> intro same <;> cases same

omit [Score R] [Component C R] in
/-- What an operation preserves it preserves when it is guarded, if rules do not matter for it. -/
theorem guarded_preserves {α : Type} {P : Deployment C R → Prop} {deployment : Deployment C R}
    {operation : String} {act : Deployment C R → Except Breakdown α × Deployment C R}
    (holds : ∀ rules, P { deployment with rules := rules })
    (preserves : ∀ other, P other → P (act other).2) :
    P (guarded operation act deployment).2 := by
  obtain ⟨rules, ⟨failure, ended⟩ | ended⟩ := guarded_cases operation act deployment
  · rw [ended]
    exact holds rules
  · rw [ended]
    exact preserves _ (holds rules)

omit [Score R] [Component C R] in
/-- A part of the deployment that an operation leaves is left when the operation is guarded. -/
theorem guarded_frame {α β : Type} (part : Deployment C R → β) {operation : String}
    {act : Deployment C R → Except Breakdown α × Deployment C R} {deployment : Deployment C R}
    (blind : ∀ rules, part { deployment with rules := rules } = part deployment)
    (leaves : ∀ other, part (act other).2 = part other) :
    part (guarded operation act deployment).2 = part deployment :=
  guarded_preserves (P := fun other => part other = part deployment) blind
    fun other same => (leaves other).trans same

theorem cache_reply {call : Call C R}
    (unwritten : ∀ key value lifetime, call ≠ .write key value lifetime)
    (undeleted : ∀ keys, call ≠ .delete keys) (deployment : Deployment C R) :
    (reply call deployment).2.cache = deployment.cache := by
  cases call with
  | query | retrieve | index =>
    exact guarded_frame cache (fun _ => rfl) fun other => by split <;> rfl
  | search | openIndex => exact guarded_frame cache (fun _ => rfl) fun _ => rfl
  | read | scan | count => rfl
  | write key value lifetime => exact absurd rfl (unwritten key value lifetime)
  | delete keys => exact absurd rfl (undeleted keys)

theorem tables_reply {call : Call C R}
    (reading : ∀ query, call = .query query → query.isReading = true)
    (deployment : Deployment C R) :
    (reply call deployment).2.tables = deployment.tables := by
  cases call with
  | query query =>
    refine guarded_frame tables (fun _ => rfl) fun other => ?_
    split
    · rename_i answer after ran
      exact Query.tables_of_reading (reading query rfl) ran
    · rfl
  | retrieve | index => exact guarded_frame tables (fun _ => rfl) fun other => by split <;> rfl
  | search | openIndex => exact guarded_frame tables (fun _ => rfl) fun _ => rfl
  | read | write | delete | scan | count => rfl

omit [Score R] [Component C R] in
theorem guarded_answer {α : Type} {operation : String}
    {act : Deployment C R → Except Breakdown α × Deployment C R} {deployment : Deployment C R}
    {value : α} (answered : (guarded operation act deployment).1 = .answer value) :
    ∃ rules, (act { deployment with rules := rules }).1 = .ok value := by
  obtain ⟨rules, ⟨failure, ended⟩ | ended⟩ := guarded_cases operation act deployment
  · rw [ended] at answered
    exact absurd answered (outcome_ne_answer failure value)
  · rw [ended] at answered
    refine ⟨rules, ?_⟩
    cases acted : (act { deployment with rules := rules }).1 with
    | ok other =>
      simp only [acted] at answered
      rw [Outcome.answer.inj answered]
    | error cause => simp [acted] at answered

variable {root : Text} {tables : Tables R} {deployment : Deployment C R}

theorem run_of_answer {query : Query R} {answer : query.Answer}
    (answered : (reply (.query query) deployment).1 = .answer answer) :
    ∃ after, query.run deployment.tables = .ok (answer, after) := by
  obtain ⟨rules, acted⟩ := guarded_answer answered
  cases ran : query.run deployment.tables with
  | error cause => simp [ran] at acted
  | ok pair =>
    simp only [ran] at acted
    exact ⟨pair.2, by rw [← Except.ok.inj acted]⟩

omit [Score R] [Component C R] in
/-- A deployment goes on to be safe while the tables and the cache stay as they are. -/
theorem isSafe_of_frame {other : Deployment C R} (safe : deployment.IsSafe root tables)
    (stays : other.tables = deployment.tables) (left : other.cache = deployment.cache) :
    other.IsSafe root tables :=
  ⟨stays.trans safe.tables_eq, left ▸ safe.cache⟩

theorem keptBy_replyUnless (fails : Nat → Call C R → Option Failure) :
    (exposureTerms (C := C) root tables).contract.KeptBy (replyUnless fails)
      fun state => state.2.IsSafe root tables := by
  rintro call ⟨place, deployment⟩ safe allowed
  cases fault : fails place call with
  | some failure =>
    rw [replyUnless_some fault]
    -- A call that fails leaves the stores as they are, and what it ends with promises nothing.
    refine ⟨?_, safe⟩
    cases call with
    | query query => exact fun answer answered => absurd answered (outcome_ne_answer failure answer)
    | read key => exact fun entry found => by cases found
    | search | retrieve | index | openIndex | write | delete | scan | count => trivial
  | none =>
    rw [replyUnless_none fault]
    cases call with
    | query query =>
      refine ⟨fun answer answered => ?_, isSafe_of_frame safe
        (tables_reply (fun _ same => by cases same; exact allowed) _)
        (cache_reply (by simp) (by simp) _)⟩
      obtain ⟨after, ran⟩ := run_of_answer answered
      exact ⟨after, safe.tables_eq ▸ ran⟩
    | search | retrieve | count =>
      exact ⟨trivial, isSafe_of_frame safe (tables_reply (by simp) _)
        (cache_reply (by simp) (by simp) _)⟩
    | index | openIndex | delete | scan => exact allowed.elim
    | read key =>
      exact ⟨fun entry found name proper encoded =>
        CacheStore.good_of_read safe.cache proper encoded found, safe⟩
    | write key value lifetime =>
      obtain ⟨name, proper, rfl, good⟩ := allowed
      exact ⟨trivial, safe.tables_eq, CacheStore.holds_write safe.cache proper good lifetime⟩

end Deployment

variable [PlainText R] {tables : Tables R}

/-- Whatever kind of answer is given, its items may be shown to the requester. -/
theorem Service.answer_yields {service : Service R} {request : Request R} :
    (service.answer request : Task C R (Answer R)).Yields
      (exposureTerms service.root tables).contract
      fun answer => ∀ item ∈ answer.items, tables.MayShow request.requester item := by
  cases request with
  | feed request => exact Task.yields_bind rankFeed_yields fun _ shown => Task.yields_pure shown
  | similar request =>
    exact Task.yields_bind similarPosts_yields fun _ shown => Task.yields_pure shown

/-- One turn on a safe deployment shows only what may be shown and leaves the deployment safe. -/
theorem Turn.serve_isSafe {service : Service R} (turn : Turn C R) {deployment : Deployment C R}
    (safe : deployment.IsSafe service.root tables) :
    (∀ answer, (turn.serve service deployment).1 = .ok answer →
        ∀ item ∈ answer.items, tables.MayShow turn.request.requester item) ∧
      (turn.serve service deployment).2.IsSafe service.root tables :=
  Program.meets_run (Deployment.keptBy_replyUnless turn.fails) Service.answer_yields (0, _)
    ⟨safe.tables_eq, safe.cache⟩

theorem serveAll_shown {service : Service R} {turns : List (Turn C R)}
    {deployment : Deployment C R} (safe : deployment.IsSafe service.root tables) :
    ∀ entry ∈ serveAll service turns deployment, ∀ answer, entry.2 = .ok answer →
      ∀ item ∈ answer.items, tables.MayShow entry.1.request.requester item := by
  induction turns generalizing deployment with
  | nil => exact fun entry member => absurd member List.not_mem_nil
  | cons turn rest ih =>
    obtain ⟨shown, safe⟩ := Turn.serve_isSafe turn safe
    intro entry member
    rcases List.mem_cons.1 member with rfl | member
    · exact shown
    · exact ih safe entry member

/-- No request shows an item that its requester may not be shown, whatever fails before it and while
it runs, if the cache was empty when the first request came. -/
theorem serveAll_shows_permitted (service : Service R) (turns : List (Turn C R))
    (deployment : Deployment C R) (empty : deployment.cache.entries = []) :
    ∀ entry ∈ serveAll service turns deployment, ∀ answer, entry.2 = .ok answer →
      ∀ item ∈ answer.items, deployment.tables.MayShow entry.1.request.requester item :=
  serveAll_shown ⟨rfl, CacheStore.holds_of_empty empty⟩

/-- On the numbers of a machine no request shows more either. -/
example (service : Service Float) (turns : List (Turn Float32 Float)) :
    ∀ entry ∈ serveAll service turns Deployment.empty, ∀ answer, entry.2 = .ok answer →
      ∀ item ∈ answer.items, Tables.MayShow .empty entry.1.request.requester item :=
  serveAll_shown ⟨rfl, CacheStore.holds_of_empty rfl⟩

/-- A reader with an interest, a public author, and one who blocks the reader. Each author has a
post. -/
def blockedReader : Tables ℚ where
  users := [⟨"ann", "ann", none, none, false, some (List.replicate 1024 (.int 1)), .null, none⟩,
    ⟨"bob", "bob", none, none, false, none, .null, none⟩,
    ⟨"eve", "eve", none, none, false, none, .null, none⟩]
  follows := [("ann", "eve")]
  blocks := [("eve", "ann")]
  posts := [⟨"0f0e0d0c-0b0a-4908-8706-050403020100", "bob", some "hello", ⟨0, 0⟩, 0, 0, [], none,
      none, none, none⟩,
    ⟨"1f0e0d0c-0b0a-4908-8706-050403020100", "eve", some "hello", ⟨0, 0⟩, 0, 0, [], none, none, none,
      none⟩]
  saves := []
  seen := []

def partialTurn (lost : Query ℚ → Bool) : Turn ℚ ℚ where
  request := .feed ⟨"ann", .null, .null, []⟩
  now := ⟨0, 0⟩
  fails
    | _, .query query => if lost query then some .hang else none
    | _, _ => none
  index := .empty
  fixedSearch := some [⟨"0f0e0d0c-0b0a-4908-8706-050403020100", 1, none⟩,
    ⟨"1f0e0d0c-0b0a-4908-8706-050403020100", 1, none⟩]
  fixedRetrieval := none

/-- Without the follows the post of the public author is shown, without the blocks none is. -/
theorem serveAll_shows_permitted_to_blockedReader :
    let service : Service ℚ := .standard "discovery" ⟨0, 0⟩
    let start : Deployment ℚ ℚ := { Deployment.empty with tables := blockedReader }
    let turns := [partialTurn fun query => query matches .blocked ..,
      partialTurn fun query => query matches .following ..]
    start.cache.entries = [] ∧
      ((serveAll service turns start).map fun entry =>
          entry.2.toOption.map fun answer => answer.items.map FeedItem.authorId) =
        [some [], some [("bob" : Text)]] ∧
      ∀ entry ∈ serveAll service turns start, ∀ answer, entry.2 = .ok answer →
        ∀ item ∈ answer.items, blockedReader.MayShow entry.1.request.requester item := by
  intro service start turns
  exact ⟨rfl, by decide +kernel, serveAll_shows_permitted service turns start rfl⟩

end PersonalFeed
