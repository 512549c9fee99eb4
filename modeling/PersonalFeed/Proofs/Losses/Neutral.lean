import PersonalFeed.Proofs.Coherence.Staleness
import PersonalFeed.Proofs.Losses.Withheld
import PersonalFeed.Proofs.Program.Mirroring

/-!
Soft losses. A feed goes on without the follows, the marks, the topics and the profile of its
reader. Where they are lost it is the feed of stores that hold nothing of the kind for the reader,
but it is not kept.
-/

set_option autoImplicit false

namespace PersonalFeed

variable {C R : Type}

inductive SoftPart where
  | follows | seen | topics | profile
  deriving DecidableEq

def Query.softPart? : Query R → Option SoftPart
  | following _ => some .follows
  | seen _ _ => some .seen
  | recentSaves _ _ => some .topics
  | profile _ => some .profile
  | interestVector _ | setInterestVector _ _ | blocked _ | authors _ | content _
  | interestSources _ _ | recordSeen _ _ _ | purgeSeen _ => none

abbrev SoftLosses := SoftPart → Option Failure

namespace SoftLosses

def fails (losses : SoftLosses) : Call C R → Option Failure
  | .query query => query.softPart?.bind losses
  | _ => none

def Keeps (losses : SoftLosses) (query : Query R) : Prop :=
  ∀ part, query.softPart? = some part → losses part = none

end SoftLosses

def Profile.blank : Profile R := ⟨.null, []⟩

def UserRow.forget (reader : Text) (user : UserRow R) : UserRow R :=
  if user.id = reader then { user with weights := .null, muted := none } else user

namespace UserRow

variable {reader : Text} (user : UserRow R)

@[simp] theorem id_forget : (user.forget reader).id = user.id := by
  unfold forget
  split <;> rfl

@[simp] theorem author_forget : (user.forget reader).author = user.author := by
  unfold forget
  split <;> rfl

@[simp] theorem interest_forget : (user.forget reader).interest = user.interest := by
  unfold forget
  split <;> rfl

theorem profile_forget [Scalar R] (own : user.id = reader) :
    (user.forget reader).profile = .blank := by
  simp [forget, own, profile, Profile.blank, Json.isAbsent]

end UserRow

def Tables.without (losses : SoftLosses) (reader : Text) (tables : Tables R) : Tables R where
  users :=
    if (losses .profile).isSome then tables.users.map (UserRow.forget reader) else tables.users
  follows :=
    if (losses .follows).isSome then tables.follows.filter (·.1 ≠ reader) else tables.follows
  blocks := tables.blocks
  posts := tables.posts
  saves := if (losses .topics).isSome then tables.saves.filter (·.user ≠ reader) else tables.saves
  seen := if (losses .seen).isSome then tables.seen.filter (·.user ≠ reader) else tables.seen

namespace Tables

variable {losses : SoftLosses} {tables : Tables R} {reader : Text} {query : Query R}

theorem isDated_without (dated : tables.IsDated) : (tables.without losses reader).IsDated where
  posts := dated.posts
  seen mark member := by
    dsimp only [without] at member
    split at member
    · exact dated.seen mark (List.mem_filter.1 member).1
    · exact dated.seen mark member

theorem following_without (lost : (losses .follows).isSome = true) :
    (tables.without losses reader).following reader = [] := by
  have none : (tables.without losses reader).follows.filter (·.1 = reader) = [] := by
    simp [without, lost, List.filter_filter]
  rw [following, none]
  rfl

theorem seenSince_without (lost : (losses .seen).isSome = true) (since : Timestamp) :
    (tables.without losses reader).seenSince reader since = [] := by
  simp only [seenSince, without, if_pos lost, List.filter_filter, List.map_eq_nil_iff,
    List.filter_eq_nil_iff]
  intro mark _
  simp only [Bool.and_eq_true, decide_eq_true_eq, not_and, ne_eq, decide_not,
    Bool.not_eq_eq_eq_not, Bool.not_true, decide_eq_false_iff_not, not_not]
  exact fun own => own.1

theorem recentSaves_without (lost : (losses .topics).isSome = true) (limit : Int) :
    (tables.without losses reader).recentSaves reader limit = [] := by
  have none : (tables.without losses reader).saves.filter (·.user = reader) = [] := by
    simp [without, lost, List.filter_filter]
  simp [recentSaves, latestSaves, none, newestFirst, limited]

variable [Scalar R]

theorem profile_without (lost : (losses .profile).isSome = true) :
    (((tables.without losses reader).user? reader).map UserRow.profile).getD .blank =
      Profile.blank := by
  have found : (tables.without losses reader).user? reader =
      (tables.user? reader).map (UserRow.forget reader) := by
    rw [← user?_map UserRow.id_forget, user?, user?, without, if_pos lost]
  rw [found]
  cases present : tables.user? reader with
  | none => rfl
  | some user =>
    have own : user.id = reader := by simpa using List.find?_some present
    simp [UserRow.profile_forget user own]

theorem agree_without (reading : query.isReading = true)
    (sources : ∀ identity limit, query ≠ .interestSources identity limit)
    (keeps : losses.Keeps query) : tables.Agree (tables.without losses reader) query := by
  -- One table after the other is emptied for the reader.
  have follows : tables.Agree { tables with follows := (tables.without losses reader).follows }
      query := by
    refine agree_follows reading fun identity asked => ?_
    simp [without, keeps .follows (asked ▸ rfl)]
  have saves : Agree { tables with follows := (tables.without losses reader).follows }
      { tables with
        follows := (tables.without losses reader).follows
        saves := (tables.without losses reader).saves } query := by
    refine agree_saves reading fun identity limit asked => ?_
    simp [without, keeps .topics ((asked.resolve_right (sources identity limit)) ▸ rfl)]
  have seen : Agree
      { tables with
        follows := (tables.without losses reader).follows
        saves := (tables.without losses reader).saves }
      { tables.without losses reader with users := tables.users } query := by
    refine agree_seen reading fun identity since asked => ?_
    simp [without, keeps .seen (asked ▸ rfl)]
  have users : Agree { tables.without losses reader with users := tables.users }
      (tables.without losses reader) query := by
    cases lost : losses .profile with
    | none =>
      have same : (tables.without losses reader).users = tables.users := by simp [without, lost]
      rw [← same]
      exact rfl
    | some failure =>
      have forgotten : (tables.without losses reader).users =
          tables.users.map (UserRow.forget reader) := by simp [without, lost]
      have agree : Agree { tables.without losses reader with users := tables.users }
          { tables.without losses reader with users := tables.users.map (UserRow.forget reader) }
          query :=
        agree_users reading UserRow.id_forget
          (fun identity asked => by simp [keeps .profile (asked ▸ rfl)] at lost)
          (fun _ _ user => UserRow.author_forget user) fun _ _ user _ =>
            UserRow.interest_forget user
      rw [← forgotten] at agree
      exact agree
  exact ((follows.trans saves).trans seen).trans users

end Tables

def Failure.stop : Failure → Stop R
  | down reason => .fault (.outage Task.databaseName reason)
  | hang => .silence

namespace Task

variable {answers : Answers C R} {α : Type}

theorem eval_query_failed {q : Query R} {failure : Failure}
    (failed : answers (.query q) = failure.outcome) :
    (query q : Task C R q.Answer).eval answers = .error failure.stop := by
  rw [query, eval_bind_ok (eval_ask _), failed]
  cases failure <;> rfl

theorem eval_attempt_failed (part : Part) {task : Task C R α} {failure : Failure}
    (failed : task.eval answers = .error failure.stop) :
    (attempt part task).eval answers = .ok none := by
  rw [eval_attempt, failed]
  cases failure <;> rfl

end Task

section

variable [Score R] [Component C R]

namespace Deployment

def answersBut (deployment : Deployment C R) (losses : SoftLosses) : Answers C R := fun call =>
  match losses.fails call with
  | some failure => call.failed failure
  | none => deployment.answers call

def without (deployment : Deployment C R) (losses : SoftLosses) (reader : Text) :
    Deployment C R :=
  { deployment with tables := deployment.tables.without losses reader }

variable {deployment : Deployment C R} {losses : SoftLosses} {reader : Text} {query : Query R}

theorem isCold_answersBut : (deployment.answersBut losses).IsCold := fun _ => rfl

theorem answersBut_query (deployment : Deployment C R) (losses : SoftLosses) (query : Query R) :
    deployment.answersBut losses (.query query) = match query.softPart?.bind losses with
      | some failure => failure.outcome
      | none => deployment.answers (.query query) := rfl

theorem answersBut_of_keeps (keeps : losses.Keeps query) :
    deployment.answersBut losses (.query query) = deployment.answers (.query query) := by
  have none : query.softPart?.bind losses = none := by
    cases soft : query.softPart? with
    | none => rfl
    | some part => exact keeps part soft
  rw [answersBut_query, none]

theorem answersBut_of_lost {part : SoftPart} {failure : Failure}
    (soft : query.softPart? = some part) (lost : losses part = some failure) :
    deployment.answersBut losses (.query query) = failure.outcome := by
  rw [answersBut_query, soft, Option.bind_some, lost]

theorem searchAlike_without :
    (deployment.answersBut losses).SearchAlike (deployment.without losses reader).answers where
  search := (searchAlike_withTables deployment _).search
  retrieve := (searchAlike_withTables deployment _).retrieve

theorem readsMarks_answersBut (dated : deployment.tables.IsDated) :
    Service.ReadsMarks (deployment.answersBut losses) := by
  intro identity since marks answered
  cases lost : losses .seen with
  | none =>
    rw [answersBut_of_keeps fun part soft => Option.some.inj soft ▸ lost] at answered
    exact readsMarks dated identity since marks answered
  | some failure =>
    rw [answersBut_of_lost rfl lost] at answered
    exact absurd answered (outcome_ne_answer failure marks)

end Deployment

end

end PersonalFeed
