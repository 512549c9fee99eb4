import PersonalFeed.Event
import PersonalFeed.Proofs.Cache.Lookups
import PersonalFeed.Proofs.Results
import PersonalFeed.Proofs.Time.Writing

/-!
Changes to the tables, and the queries that each of them touches. All other queries are answered as
before. A change is announced by an event.
-/

set_option autoImplicit false

namespace PersonalFeed

/-- A change that is made outside of the service. -/
inductive Change where
  | addFollow (edge : Text × Text)
  | removeFollow (edge : Text × Text)
  | addBlock (edge : Text × Text)
  | removeBlock (edge : Text × Text)
  | addSave (mark : Mark)
  | removeSave (key : Text × Text)
  | addSeen (mark : Mark)
  | removeSeen (key : Text × Text)
  | setPrivate (identity : Text) (isPrivate : Bool)

namespace Change

variable {R : Type}

def people : Change → List Text
  | addFollow edge | removeFollow edge | addBlock edge | removeBlock edge => [edge.1, edge.2]
  | addSave mark | addSeen mark => [mark.user]
  | removeSave key | removeSeen key => [key.1]
  | setPrivate identity _ => [identity]

/-- The tables after a change. The store takes no text without a form in bytes. -/
def apply : Change → Tables R → Except Breakdown (Tables R)
  | addFollow edge, tables => tables.addFollow edge
  | removeFollow edge, tables =>
    Tables.refusing (columnFlaw? [edge.1, edge.2] []) (tables.removeFollow edge)
  | addBlock edge, tables => tables.addBlock edge
  | removeBlock edge, tables =>
    Tables.refusing (columnFlaw? [edge.1, edge.2] []) (tables.removeBlock edge)
  | addSave mark, tables => tables.addSave mark
  | removeSave key, tables =>
    Tables.refusing (columnFlaw? [key.1, key.2] []) (tables.removeSave key)
  | addSeen mark, tables => tables.addSeen mark
  | removeSeen key, tables =>
    Tables.refusing (columnFlaw? [key.1, key.2] []) (tables.removeSeen key)
  | setPrivate identity isPrivate, tables =>
    Tables.refusing (columnFlaw? [identity] [])
      { tables with
        users := tables.users.map fun user =>
          if user.id = identity then { user with isPrivate := isPrivate } else user }

def event : Change → Event
  | addFollow edge | removeFollow edge => ⟨.followChanged, edge.1, some edge.2, none⟩
  | addBlock edge | removeBlock edge => ⟨.blockChanged, edge.1, some edge.2, none⟩
  | addSave mark => ⟨.postSaved, mark.user, none, some mark.post⟩
  | removeSave key => ⟨.postSaved, key.1, none, some key.2⟩
  | addSeen mark => ⟨.seenRecorded, mark.user, none, some mark.post⟩
  | removeSeen key => ⟨.seenRecorded, key.1, none, some key.2⟩
  | setPrivate identity _ => ⟨.privacyChanged, identity, none, none⟩

def Touches : Change → Query R → Prop
  | addFollow edge, query | removeFollow edge, query => query = .following edge.1
  | addBlock edge, query | removeBlock edge, query =>
    query = .blocked edge.1 ∨ query = .blocked edge.2
  | addSave mark, query =>
    ∃ limit, query = .recentSaves mark.user limit ∨ query = .interestSources mark.user limit
  | removeSave key, query =>
    ∃ limit, query = .recentSaves key.1 limit ∨ query = .interestSources key.1 limit
  | addSeen mark, query => ∃ since, query = .seen mark.user since
  | removeSeen key, query => ∃ since, query = .seen key.1 since
  | setPrivate _ _, query => ∃ ids, query = .authors ids

end Change

section

variable {α κ : Type}

theorem self_mem_upsert [DecidableEq κ] (key : α → κ) (row : α) (rows : List α) :
    row ∈ upsert key row rows := by
  induction rows with
  | nil => exact List.mem_singleton_self row
  | cons head rest ih =>
    rw [upsert]
    split
    · exact List.mem_cons_self
    · exact List.mem_cons_of_mem _ ih

theorem filter_upsert [DecidableEq κ] {key : α → κ} {row : α} {p : α → Bool}
    (out : ∀ other, key other = key row → p other = false) (rows : List α) :
    (upsert key row rows).filter p = rows.filter p := by
  induction rows with
  | nil => simp [upsert, out row rfl]
  | cons head rest ih =>
    rw [upsert]
    split
    · rename_i same
      simp [out row rfl, out head same]
    · rw [List.filter_cons, List.filter_cons, ih]

/-- A row comes in the place of the one with its key, so keys stay distinct. -/
theorem nodup_upsert [DecidableEq κ] {key : α → κ} {row : α} {rows : List α}
    (distinct : (rows.map key).Nodup) : ((upsert key row rows).map key).Nodup := by
  induction rows with
  | nil => exact List.pairwise_singleton _ _
  | cons head rest ih =>
    rw [List.map_cons, List.nodup_cons] at distinct
    rw [upsert]
    split
    · rename_i same
      rw [List.map_cons, List.nodup_cons, ← same]
      exact distinct
    · rename_i other
      rw [List.map_cons, List.nodup_cons]
      refine ⟨fun again => ?_, ih distinct.2⟩
      obtain ⟨found, inside, same⟩ := List.mem_map.1 again
      rcases mem_upsert key row found rest inside with rfl | inside
      · exact other same.symm
      · exact distinct.1 (same ▸ List.mem_map_of_mem inside)

theorem filter_remaining {p q : α → Bool} (out : ∀ row, q row = false → p row = false)
    (rows : List α) : (rows.filter q).filter p = rows.filter p := by
  rw [List.filter_filter]
  refine List.filter_congr fun row _ => ?_
  cases kept : q row with
  | true => rw [Bool.and_true]
  | false => rw [out row kept, Bool.and_false]

end

theorem isWhole_of_columnFlaw? {texts : List Text} {numbers : List Int}
    (stored : columnFlaw? texts numbers = none) : ∀ text ∈ texts, text.isWhole = true := by
  unfold columnFlaw? at stored
  split at stored
  · cases stored
  · rename_i all
    simpa using all

variable {R : Type}

structure Tables.IsDated (tables : Tables R) : Prop where
  posts : ∀ row ∈ tables.posts, row.createdAt.IsStored
  seen : ∀ mark ∈ tables.seen, mark.moment.IsStored

variable [Scalar R]

def Tables.Agree (tables other : Tables R) (query : Query R) : Prop :=
  (query.run other).map Prod.fst = (query.run tables).map Prod.fst

namespace Tables

variable {tables other later after : Tables R} {query : Query R}

theorem Agree.trans (first : tables.Agree other query) (second : other.Agree later query) :
    tables.Agree later query :=
  Eq.trans second first

theorem ok_of_run {answer : query.Answer} (ran : query.run tables = .ok (answer, after)) :
    query.flaw? = none ∧ query.answer tables = .ok (answer, after) := by
  unfold Query.run at ran
  split at ran
  · cases ran
  · rename_i none
    exact ⟨none, ran⟩

theorem agree_of_answer
    (same : (query.answer other).map Prod.fst = (query.answer tables).map Prod.fst) :
    tables.Agree other query := by
  unfold Agree Query.run
  split
  · rfl
  · exact same

omit [Scalar R] in
theorem ok_of_refusing {flaw : Option Breakdown} {added : Tables R}
    (stored : refusing flaw added = .ok other) : flaw = none ∧ added = other := by
  cases flaw with
  | none => exact ⟨rfl, Except.ok.inj stored⟩
  | some cause => cases stored

section

variable (reading : query.isReading = true)

include reading

theorem agree_follows {follows : List (Text × Text)}
    (untouched : ∀ identity, query = .following identity →
      follows.filter (·.1 = identity) = tables.follows.filter (·.1 = identity)) :
    tables.Agree { tables with follows := follows } query := by
  refine agree_of_answer ?_
  cases query with
  | following identity => simp [Query.answer, following, untouched identity rfl, Except.map]
  | setInterestVector | recordSeen | purgeSeen => cases reading
  | interestVector | profile | blocked | authors | content | recentSaves | interestSources
  | seen => rfl

theorem agree_blocks {blocks : List (Text × Text)}
    (untouched : ∀ identity, query = .blocked identity →
      blocks.filter (fun edge => edge.1 = identity || edge.2 = identity) =
        tables.blocks.filter fun edge => edge.1 = identity || edge.2 = identity) :
    tables.Agree { tables with blocks := blocks } query := by
  refine agree_of_answer ?_
  cases query with
  | blocked identity => simp only [Query.answer, blocked, untouched identity rfl, Except.map]
  | setInterestVector | recordSeen | purgeSeen => cases reading
  | interestVector | profile | following | authors | content | recentSaves | interestSources
  | seen => rfl

theorem agree_saves {saves : List Mark}
    (untouched : ∀ identity limit,
      query = .recentSaves identity limit ∨ query = .interestSources identity limit →
      saves.filter (·.user = identity) = tables.saves.filter (·.user = identity)) :
    tables.Agree { tables with saves := saves } query := by
  refine agree_of_answer ?_
  cases query with
  | recentSaves identity limit =>
    simp only [Query.answer, recentSaves, latestSaves, post?, untouched identity limit (.inl rfl),
      Except.map]
  | interestSources identity limit =>
    simp only [Query.answer, interestSources, latestSaves, untouched identity limit (.inr rfl),
      Except.map]
  | setInterestVector | recordSeen | purgeSeen => cases reading
  | interestVector | profile | following | blocked | authors | content | seen => rfl

theorem agree_seen {seen : List Mark}
    (untouched : ∀ identity since, query = .seen identity since →
      seen.filter (fun mark =>
          mark.user = identity && since.withoutZone.micros ≤ mark.moment.micros) =
        tables.seen.filter fun mark =>
          mark.user = identity && since.withoutZone.micros ≤ mark.moment.micros) :
    tables.Agree { tables with seen := seen } query := by
  refine agree_of_answer ?_
  cases query with
  | seen identity since =>
    simp only [Query.answer, seenSince, untouched identity since rfl, Except.map]
  | setInterestVector | recordSeen | purgeSeen => cases reading
  | interestVector | profile | following | blocked | authors | content | recentSaves
  | interestSources => rfl

omit [Scalar R] reading in
theorem user?_map {f : UserRow R → UserRow R} (same : ∀ user, (f user).id = user.id)
    (identity : Text) :
    user? { tables with users := tables.users.map f } identity =
      (tables.user? identity).map f := by
  rw [user?, user?, List.find?_map]
  simp only [Function.comp_def, same]

/-- People may be changed as long as each part of them that is asked for stays. -/
theorem agree_users {f : UserRow R → UserRow R} (same : ∀ user, (f user).id = user.id)
    (profile : ∀ identity, query = .profile identity → ∀ user, (f user).profile = user.profile)
    (authors : ∀ ids, query = .authors ids → ∀ user, (f user).author = user.author)
    (interest : ∀ identity, query = .interestVector identity → ∀ user,
      user.id = identity → (f user).interest = user.interest) :
    tables.Agree { tables with users := tables.users.map f } query := by
  -- A person is found by id, which is kept, so a look-up finds the changed row of the same one.
  have found (identity : Text) :
      user? { tables with users := tables.users.map f } identity = (tables.user? identity).map f :=
    user?_map same identity
  refine agree_of_answer ?_
  cases query with
  | interestVector identity =>
    have vector : ((tables.user? identity).map f).bind UserRow.interestVector =
        (tables.user? identity).bind UserRow.interestVector := by
      cases present : tables.user? identity with
      | none => rfl
      | some user =>
        have named : user.id = identity := by simpa using List.find?_some present
        simp [UserRow.interestVector, interest identity rfl user named]
    simp only [Query.answer, found, vector, Except.map]
  | profile identity =>
    simp only [Query.answer, found, Option.map_map, Function.comp_def, profile identity rfl,
      Except.map]
  | authors ids =>
    simp only [Query.answer, List.filter_map, List.map_map, Function.comp_def, same,
      authors ids rfl, Except.map]
  | setInterestVector | recordSeen | purgeSeen => cases reading
  | following | blocked | content | recentSaves | interestSources | seen => rfl

end

end Tables

namespace Change

variable {tables after : Tables R} {query : Query R}

theorem agree_of_apply {change : Change} (applied : change.apply tables = .ok after)
    (reading : query.isReading = true) (untouched : ¬ change.Touches query) :
    tables.Agree after query := by
  -- A change of one row is not seen in a selection that the row before and after it is not in.
  cases change with
  | addFollow edge =>
    obtain ⟨-, rfl⟩ := Tables.ok_of_refusing applied
    refine Tables.agree_follows reading fun identity asked => filter_upsert ?_ _
    rintro other rfl
    refine decide_eq_false ?_
    rintro rfl
    exact untouched asked
  | removeFollow edge =>
    obtain ⟨-, rfl⟩ := Tables.ok_of_refusing applied
    refine Tables.agree_follows reading fun identity asked => filter_remaining ?_ _
    intro other removed
    obtain rfl : other = edge := by simpa using removed
    refine decide_eq_false ?_
    rintro rfl
    exact untouched asked
  | addBlock edge =>
    obtain ⟨-, rfl⟩ := Tables.ok_of_refusing applied
    refine Tables.agree_blocks reading fun identity asked => filter_upsert ?_ _
    rintro other rfl
    rw [Bool.or_eq_false_iff]
    exact ⟨decide_eq_false fun same => untouched (.inl (same ▸ asked)),
      decide_eq_false fun same => untouched (.inr (same ▸ asked))⟩
  | removeBlock edge =>
    obtain ⟨-, rfl⟩ := Tables.ok_of_refusing applied
    refine Tables.agree_blocks reading fun identity asked => filter_remaining ?_ _
    intro other removed
    obtain rfl : other = edge := by simpa using removed
    rw [Bool.or_eq_false_iff]
    exact ⟨decide_eq_false fun same => untouched (.inl (same ▸ asked)),
      decide_eq_false fun same => untouched (.inr (same ▸ asked))⟩
  | addSave mark =>
    obtain ⟨-, rfl⟩ := Tables.ok_of_refusing applied
    refine Tables.agree_saves reading fun identity limit asked => filter_upsert ?_ _
    intro other same
    refine decide_eq_false fun owner => untouched ⟨limit, ?_⟩
    have owners : other.user = mark.user := congrArg Prod.fst same
    rwa [← owners, owner]
  | removeSave key =>
    obtain ⟨-, rfl⟩ := Tables.ok_of_refusing applied
    refine Tables.agree_saves reading fun identity limit asked => filter_remaining ?_ _
    intro other removed
    obtain rfl : other.key = key := by simpa using removed
    refine decide_eq_false ?_
    rintro rfl
    exact untouched ⟨limit, asked⟩
  | addSeen mark =>
    obtain ⟨-, rfl⟩ := Tables.ok_of_refusing applied
    refine Tables.agree_seen reading fun identity since asked => filter_upsert ?_ _
    intro other same
    have owners : other.user = mark.user := congrArg Prod.fst same
    rw [Bool.and_eq_false_iff]
    refine .inl (decide_eq_false fun owner => untouched ⟨since, ?_⟩)
    rw [← owners, owner]
    exact asked
  | removeSeen key =>
    obtain ⟨-, rfl⟩ := Tables.ok_of_refusing applied
    refine Tables.agree_seen reading fun identity since asked => filter_remaining ?_ _
    intro other removed
    obtain rfl : other.key = key := by simpa using removed
    rw [Bool.and_eq_false_iff]
    refine .inl (decide_eq_false ?_)
    rintro rfl
    exact untouched ⟨since, asked⟩
  | setPrivate identity isPrivate =>
    obtain ⟨-, rfl⟩ := Tables.ok_of_refusing applied
    refine Tables.agree_users reading (fun user => ?_) (fun _ _ user => ?_)
      (fun ids asked => absurd ⟨ids, asked⟩ untouched) fun _ _ user _ => ?_
    all_goals split <;> rfl

omit [Scalar R] in
theorem isWhole_of_apply {change : Change} (applied : change.apply tables = .ok after) :
    ∀ name ∈ change.people, name.isWhole = true := by
  have first {a b : Text} (stored : columnFlaw? [a, b] [] = none) :
      ∀ name ∈ [a], name.isWhole = true :=
    fun name member => isWhole_of_columnFlaw? stored name (by simp_all)
  cases change with
  | addFollow | removeFollow | addBlock | removeBlock =>
    exact isWhole_of_columnFlaw? (Tables.ok_of_refusing applied).1
  | addSave | removeSave | addSeen | removeSeen => exact first (Tables.ok_of_refusing applied).1
  | setPrivate => exact isWhole_of_columnFlaw? (Tables.ok_of_refusing applied).1

omit [Scalar R] in
theorem isDated_of_apply {change : Change} (applied : change.apply tables = .ok after)
    (dated : tables.IsDated)
    (moments : ∀ mark, change = .addSeen mark → mark.moment.inCalendar = true) :
    after.IsDated := by
  cases change with
  | addSeen mark =>
    obtain ⟨-, rfl⟩ := Tables.ok_of_refusing applied
    refine ⟨dated.posts, fun other member => ?_⟩
    rcases mem_upsert _ _ _ _ member with rfl | member
    · exact Timestamp.isStored_withoutZone (moments mark rfl)
    · exact dated.seen other member
  | removeSeen key =>
    obtain ⟨-, rfl⟩ := Tables.ok_of_refusing applied
    exact ⟨dated.posts, fun other member => dated.seen other (List.mem_filter.1 member).1⟩
  | addFollow | removeFollow | addBlock | removeBlock | addSave | removeSave | setPrivate =>
    obtain ⟨-, rfl⟩ := Tables.ok_of_refusing applied
    exact ⟨dated.posts, dated.seen⟩

end Change

namespace Tables

variable {tables after : Tables R} {query : Query R} {identity : Text}

theorem agree_recordSeen {posts : List Text} {now : Timestamp}
    (stored : tables.recordSeen identity posts now = .ok after) (reading : query.isReading = true)
    (untouched : ∀ since, query ≠ .seen identity since) : tables.Agree after query := by
  unfold recordSeen at stored
  induction posts generalizing tables with
  | nil =>
    cases stored
    rfl
  | cons post rest ih =>
    rw [List.foldlM_cons] at stored
    obtain ⟨middle, added, stored⟩ := ok_of_bind stored
    have change : (Change.addSeen ⟨identity, post, now⟩).apply tables = .ok middle := added
    exact (Change.agree_of_apply change reading fun ⟨since, asked⟩ => untouched since asked).trans
      (ih stored)

omit [Scalar R] in
theorem isDated_recordSeen {posts : List Text} {now : Timestamp}
    (stored : tables.recordSeen identity posts now = .ok after) (dated : tables.IsDated)
    (inside : now.inCalendar = true) : after.IsDated := by
  unfold recordSeen at stored
  induction posts generalizing tables with
  | nil =>
    cases stored
    exact dated
  | cons post rest ih =>
    rw [List.foldlM_cons] at stored
    obtain ⟨middle, added, stored⟩ := ok_of_bind stored
    have change : (Change.addSeen ⟨identity, post, now⟩).apply tables = .ok middle := added
    refine ih stored (Change.isDated_of_apply change dated ?_)
    rintro mark same
    cases same
    exact inside

theorem agree_setInterest (vector : List R) (reading : query.isReading = true)
    (untouched : query ≠ .interestVector identity) :
    tables.Agree (tables.setInterest identity vector) query := by
  refine agree_users reading (fun user => ?_) (fun _ _ user => ?_) (fun _ _ user => ?_) ?_
  · split <;> rfl
  · split <;> rfl
  · split <;> rfl
  · rintro other rfl user rfl
    rw [if_neg]
    rintro rfl
    exact untouched rfl

theorem agree_purgeSeen {before : Timestamp} (reading : query.isReading = true)
    (kept : ∀ identity since, query = .seen identity since →
      before.withoutZone.micros ≤ since.withoutZone.micros) :
    tables.Agree (tables.purgeSeen before).2 query := by
  refine agree_seen reading fun identity since asked => filter_remaining ?_ _
  intro mark expired
  have later := kept identity since asked
  have gone : mark.moment.micros < before.withoutZone.micros := by simpa using expired
  rw [Bool.and_eq_false_iff]
  exact .inr (decide_eq_false (by omega))

end Tables

end PersonalFeed
