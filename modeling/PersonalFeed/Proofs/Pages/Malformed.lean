import PersonalFeed.Proofs.Pages.Safety
import PersonalFeed.Proofs.Tensors

/-!
Feeds of readers whose own data is malformed. Whatever list is stored as the interest vector of a
reader and whatever record as the weights, as long as the one has a shape and numbers in its places
and the other no number that is too long, a request ends with a page: the empty one for a list that
is no vector, and the configured weights count in place of a record that is no set of weights.
-/

set_option autoImplicit false

namespace PersonalFeed

open Scalar Extended

variable {C R : Type}

def Json.FormVector [Numeral R] (components : List (Json R)) : Prop :=
  components.length = vectorWidth ∧ ∀ component ∈ components, ∃ x : R, component.toReal = .ok x

variable (C) in
/-- A list with a shape whose values are numbers, none of them undefined where the list is as long
as a vector. -/
structure Json.IsLegible [Component C R] [Numeral R] (components : List (Json R)) : Prop where
  shaped : ∃ shape, (Json.array components).nesting.shape? = some shape ∧ shape.length ≤ levelLimit
  values : ∀ value ∈ (Json.array components).nesting.values, ∃ x, value.toComponent = .ok x
  defined : components.length = vectorWidth → ∀ component ∈ components, ∀ x,
    component.toComponent = .ok x → isNaN (Component.narrow x : C) = false

/-- The weights that a record gives: it names the five signals and nothing else, and its values
fit. -/
structure Weights.IsRecorded [Numeral R] (fields : List (Text × Json R)) (weights : Weights R) :
    Prop where
  named : ∀ name : Text, name ∈ fields.map Prod.fst ↔ ∃ signal : Signal, name = signal.name
  fits : Fits (fun signal => (Json.find? signal.name fields).getD .null) weights

def Weights.IsShort (fields : List (Text × Json R)) : Prop :=
  ∀ (signal : Signal) n, Json.find? signal.name fields = some (.int n) →
    Number.isWideWord n = true

def Deployment.storing (deployment : Deployment C R) (identity : Text) (components : List (Json R))
    (fields : List (Text × Json R)) : Deployment C R :=
  { deployment with tables := { deployment.tables with
      users := deployment.tables.users.map fun user =>
        if user.id = identity then
          { user with interest := some components, weights := .object fields }
        else user } }

theorem Json.isLegible_of_components [Score R] [Component C R] {components : List (Json R)}
    (each : ∀ component ∈ components, component.IsComponent C) : IsLegible C components := by
  obtain ⟨numbers, read⟩ := forall₂_of_ok (f := toReal) fun component member =>
    (each component member).imp fun _ both => both.1
  have nested := nesting_numbers read
  refine ⟨⟨[components.length], ?_, by simp [levelLimit]⟩, fun value member => ?_,
    fun _ component member x found => ?_⟩
  · rw [nested, Tensor.shape?_ofList]
  · rw [nested, Tensor.values_ofList] at member
    obtain ⟨x, found, -⟩ := each value member
    exact ⟨x, toComponent_of_toReal found⟩
  · obtain ⟨y, read, number⟩ := each component member
    cases (toComponent_of_toReal read).symm.trans found
    exact number

namespace Weights

variable [Numeral R] {fields : List (Text × Json R)}

theorem isRecorded_iff {weights : Weights R} :
    IsRecorded fields weights ↔ ofStored (.object fields) = .ok weights := by
  rw [ofStored_ok_iff]
  constructor
  · intro recorded
    exact ⟨fields, rfl, recorded.named, recorded.fits⟩
  · rintro ⟨_, same, named, fits⟩
    cases same
    exact ⟨named, fits⟩

/-- Values without a number that is too long are weights or have a flaw that can be told. -/
theorem not_unusable_of_check {given : Signal → Json R}
    (short : ∀ signal n, given signal = .int n → Number.isWideWord n = true) :
    check given ≠ .error .unusable := by
  have checked (signal : Signal) (value : Json R) (x : R) :
      checkReal signal value x ≠ .error .unusable := by
    unfold checkReal
    split <;> exact fun same => by cases same
  have each (signal : Signal) : checkWeight signal (given signal) ≠ .error .unusable := by
    cases value : given signal with
    | int n =>
      rw [checkWeight, if_pos (short signal n value)]
      exact checked _ _ _
    | real x => exact checked _ _ x
    | null | bool | string | array | object => exact fun same => by cases same
  refine bind_ne_error (each _) fun _ => bind_ne_error (each _) fun _ => bind_ne_error (each _)
    fun _ => bind_ne_error (each _) fun _ => bind_ne_error (each _) fun _ => ?_
  dsimp only
  split <;> exact fun same => by cases same

/-- The names of a record can be put in order, so that those that are no signals can be told. -/
theorem sortMembers?_unknown (fields : List (Text × Json R)) :
    ∃ sorted, Json.sortMembers? (unknown (fields.map fun field => (.string field.1 : Json R))) =
      some sorted := by
  have texts : (unknown (fields.map fun field => (.string field.1 : Json R))).all Json.isText := by
    rw [List.all_eq_true]
    intro member inside
    obtain ⟨field, -, rfl⟩ := List.mem_map.1 (List.mem_filter.1 inside).1
    rfl
  exact ⟨_, if_pos (by rw [texts, Bool.or_true, Bool.true_or])⟩

/-- A short record is a set of weights or no set of weights, but it breaks nothing. -/
theorem ofStored_of_short (short : IsShort fields) :
    (∃ weights, ofStored (.object fields) = .ok weights) ∨
      ∃ cause, ofStored (.object fields) = .error (.configuration cause) := by
  let members : List (Json R) := fields.map fun field => .string field.1
  -- The names are compared first, and only with the right names are the numbers looked at.
  by_cases named : (missing members).isEmpty ∧ (unknown members).isEmpty
  · have given : ofStored (.object fields) =
        (check fun signal => (Json.find? signal.name fields).getD .null).mapError flawFault :=
      if_pos named
    -- What could break is a number too large to be taken as a weight, and a short record has none.
    have told : check (fun signal : Signal => (Json.find? signal.name fields).getD .null) ≠
        .error .unusable := by
      refine not_unusable_of_check fun signal n given => ?_
      cases found : Json.find? signal.name fields with
      | none =>
        rw [found] at given
        cases given
      | some value =>
        rw [found] at given
        exact short signal n (found.trans (congrArg some given))
    rw [given]
    cases ended : check (fun signal : Signal => (Json.find? signal.name fields).getD .null) with
    | ok weights => exact .inl ⟨weights, rfl⟩
    | error flaw =>
      cases flaw with
      | unusable => exact absurd ended told
      | notNumber | outOfRange | nothingPositive | names => exact .inr ⟨_, rfl⟩
  · obtain ⟨sorted, ordered⟩ := sortMembers?_unknown fields
    have refused : ofStored (.object fields) =
        .error (.configuration (.weights (.names (missing members) sorted))) := by
      refine (if_neg named).trans ?_
      rw [ordered]
    exact .inr ⟨_, refused⟩

end Weights

variable {a : Arithmetic}

namespace Json

variable {components : List (Json (Extended a .double))}

theorem toReal_of_legible (legible : IsLegible (Extended a .single) components)
    (wide : components.length = vectorWidth) {component : Json (Extended a .double)}
    (member : component ∈ components) {x : Extended a .double}
    (read : component.toComponent = .ok x) : component.toReal = .ok x := by
  cases component with
  | null =>
    cases read
    cases legible.defined wide .null member _ rfl
  | bool | int | real | string | array | object => exact read

theorem readInterest_of_legible (legible : IsLegible (Extended a .single) components)
    (other : ¬ FormVector components) :
    (Service.readInterest (.array components) :
      Except (Fault (Extended a .double)) (Option (Embedding (Extended a .single)))) =
      .ok none := by
  let read (x : Json (Extended a .double)) : Except Breakdown (Extended a .single) :=
    x.toComponent.map Component.narrow
  obtain ⟨shape, shaped, shallow⟩ := legible.shaped
  have nested : (Json.array components).toTensor.map Embedding.narrow =
      (Json.array components).nesting.convert read := by
    rw [toTensor, shaped, Option.any_some, if_pos (by simpa using shallow)]
    exact Tensor.map_convert _ _ _
  obtain ⟨t, made⟩ : ∃ t, (Json.array components).nesting.convert read = .ok t := by
    refine Tensor.convert_isOk _ fun x member => ?_
    obtain ⟨y, found⟩ := legible.values x member
    exact ⟨Component.narrow y, congrArg (Except.map Component.narrow) found⟩
  -- It is made into a tensor, and this one is no row of the width of vectors.
  have misfit : (t.flatRow?.bind fun row => Embedding.ofArray? row.toArray) = none := by
    cases flat : t.flatRow? with
    | none => rfl
    | some row =>
      obtain ⟨values, before, each⟩ := Tensor.flatRow?_convert made flat
      obtain rfl := eq_of_flat_nesting before
      refine dif_neg fun wide => other ?_
      have long : values.length = vectorWidth := each.length_eq.trans wide
      refine ⟨long, fun value member => ?_⟩
      obtain ⟨_, read⟩ := ok_of_forall₂ each member
      obtain ⟨x, found, -⟩ := ok_of_map read
      exact ⟨x, toReal_of_legible legible long member found⟩
  have stored : (Embedding.ofStored (.array components) :
      Except (Fault (Extended a .double)) (Embedding (Extended a .single))) =
        .error (.dimension shape) := by
    rw [Embedding.ofStored, Embedding.componentsOf, nested, made]
    change Embedding.ofTensor t = _
    rw [Embedding.ofTensor, misfit, Tensor.shape?_convert made, shaped]
  rw [Service.readInterest, stored]

end Json

section

variable [Score R] {deployment : Deployment C R} {identity : Text}
variable {components : List (Json R)} {fields : List (Text × Json R)}

omit [Score R] in
theorem Deployment.user?_storing : (deployment.storing identity components fields).tables.user?
    identity = (deployment.tables.user? identity).map fun user =>
      { user with interest := some components, weights := .object fields } := by
  refine (Tables.user?_map (fun user => ?_) identity).trans ?_
  · split <;> rfl
  · cases found : deployment.tables.user? identity with
    | none => rfl
    | some user =>
      have named : user.id = identity := by simpa using List.find?_some found
      exact congrArg some (if_pos named)

namespace Service

variable (service : Service R)

/-- The weights that count when a record is stored for a reader: those that it gives, if it gives
any, or else the configured ones. -/
def Applies (fields : List (Text × Json R)) (weights : Weights R) : Prop :=
  Weights.IsRecorded fields weights ∨
    (¬ ∃ recorded, Weights.IsRecorded fields recorded) ∧ weights = service.config.weights

variable {service} (known : deployment.tables.user? identity ≠ none)

include known

theorem weightsOf_storing (short : Weights.IsShort fields) :
    ∃ weights, service.weightsOf (deployment.storing identity components fields).tables identity =
      .ok weights ∧ service.Applies fields weights := by
  obtain ⟨user, found⟩ := Option.ne_none_iff_exists'.1 known
  have nothing (absent : ¬ ∃ weights, Weights.ofStored (.object fields) = .ok weights) :
      service.Applies fields service.config.weights := by
    refine .inr ⟨fun recorded => absent ?_, rfl⟩
    exact recorded.imp fun weights recorded => Weights.isRecorded_iff.1 recorded
  unfold weightsOf
  rw [Deployment.user?_storing, found, Option.map_some, Option.map_some]
  dsimp only [UserRow.profile]
  -- An empty record counts as none, so it is set apart from one that is read.
  by_cases absent : (Json.object fields : Json R).isAbsent = true
  · rw [if_pos absent]
    refine ⟨_, rfl, nothing ?_⟩
    rintro ⟨weights, accepted⟩
    have none := weights_of_absent absent
    rw [accepted] at none
    cases none
  · rw [if_neg absent, if_neg absent]
    rcases Weights.ofStored_of_short short with ⟨weights, accepted⟩ | ⟨cause, refused⟩
    · rw [accepted]
      exact ⟨_, rfl, .inl (Weights.isRecorded_iff.2 accepted)⟩
    · rw [refused]
      refine ⟨_, rfl, nothing ?_⟩
      rintro ⟨weights, accepted⟩
      rw [refused] at accepted
      cases accepted

end Service

end

section

variable [Score R] [Component C R] [FaithfulText R] {service : Service R}
variable {deployment : Deployment C R} {request : FeedRequest R} {query : FeedQuery R}

namespace Service

/-- A reader whose stored list is not read as a vector gets the empty page. -/
theorem eval_answer_of_unread (ready : service.IsSound)
    (plain : checkFeed service.config { request with overrides := [] } = .ok query)
    (whole : request.identity.isWhole = true) (once : (request.overrides.map Prod.fst).Nodup)
    (fits : ∃ weights, Weights.LaidOver request.overrides service.config.weights weights)
    {saved : List (Post C)} (saves : (deployment.tables.recentSaves request.identity
      service.config.ranking.recentSavesLimit).mapM PostRow.post = .ok saved)
    {own weights : Weights R}
    (given : service.weightsOf deployment.tables request.identity = .ok own)
    (accepted : own.withOverrides request.overrides = .ok weights)
    (unread : ∀ components, (deployment.tables.user? request.identity).bind
      UserRow.interestVector = some components →
        (readInterest (.array components) : Except (Fault R) (Option (Embedding C))) = .ok none) :
    (service.answer (.feed request)).eval deployment.answers =
      .ok (.feed (.empty request.identity)) := by
  have same := identity_of_checkFeed plain
  dsimp only at same
  obtain ⟨since, start⟩ := ready.window
  have weighed : (service.profileWeights ((deployment.tables.user? request.identity).map
      UserRow.profile)).eval deployment.answers = .ok own := by
    rw [eval_profileWeights, given]
    rfl
  -- The overrides are checked before the interest is looked at, so they have to fit here as well.
  have computed : (service.computePage { query with overrides := request.overrides }).eval
      deployment.answers = .ok (.empty request.identity, false) := by
    unfold computePage
    dsimp only
    rw [same]
    refine (Task.eval_bind_ok (eval_loadContext ready.root whole start ready.history saves) _).trans
      ((Task.eval_bind_ok weighed _).trans
        ((Task.eval_bind_ok (Task.eval_ofRefusal_ok accepted) _).trans ?_))
    dsimp only [contextOf, Option.join_some]
    cases stored : (deployment.tables.user? request.identity).bind UserRow.interestVector with
    | none => rfl
    | some components =>
      exact (Task.eval_bind_ok (Task.eval_ofExcept_ok (unread components stored)) _).trans rfl
  rw [eval_answer_of_fit ready plain whole once fits, computed]
  rfl

end Service

end

section

variable {service : Service (Extended a .double)}
variable {deployment : Deployment (Extended a .single) (Extended a .double)} {identity : Text}
variable {components : List (Json (Extended a .double))}
variable {fields : List (Text × Json (Extended a .double))}

theorem Json.isComponent_of_legible (legible : IsLegible (Extended a .single) components)
    (vector : FormVector components) {component : Json (Extended a .double)}
    (member : component ∈ components) : component.IsComponent (Extended a .single) := by
  obtain ⟨x, read⟩ := vector.2 component member
  exact ⟨x, read,
    legible.defined vector.1 component member x (toComponent_of_toReal read)⟩

theorem Deployment.user_of_storing {user : UserRow (Extended a .double)}
    (member : user ∈ (deployment.storing identity components fields).tables.users) :
    ∃ before ∈ deployment.tables.users, user.muted = before.muted ∧
      (user.interest = before.interest ∨ user.interest = some components) := by
  obtain ⟨before, inside, rfl⟩ := List.mem_map.1 member
  refine ⟨before, inside, ?_⟩
  split
  · exact ⟨rfl, .inr rfl⟩
  · exact ⟨rfl, .inl rfl⟩

theorem Deployment.isSound_storing (sound : deployment.IsSound)
    (legible : Json.IsLegible (Extended a .single) components)
    (vector : Json.FormVector components) :
    (deployment.storing identity components fields).IsSound where
  tables := {
    dated := ⟨sound.tables.dated.1, sound.tables.dated.2⟩
    stored := sound.tables.stored
    named := sound.tables.named
    embeddings := sound.tables.embeddings
    interests := by
      intro user member entries interest entry inside
      obtain ⟨before, there, -, same | same⟩ := user_of_storing member
      · exact sound.tables.interests before there entries (same ▸ interest) entry inside
      · cases same.symm.trans interest
        exact Json.isComponent_of_legible legible vector inside
    muted := by
      intro user member keyword inside
      obtain ⟨before, there, same, -⟩ := user_of_storing member
      exact sound.tables.muted before there keyword (same ▸ inside) }
  distinct := sound.distinct
  written := sound.written
  asked := sound.asked

theorem clip_undefined {w : Width} : clip (.undefined : Extended a w) = .undefined := by
  have below : lt .undefined (ofInt (-1) : Extended a w) = false := by
    cases (ofInt (-1) : Extended a w) <;> rfl
  have above : lt (one : Extended a w) .undefined = false := by
    cases (one : Extended a w) <;> rfl
  unfold clip
  rw [below, above]
  rfl

/-- Whatever two vectors are, their similarity counts for nothing or for at most one. -/
theorem upTo_cosine (v u : Embedding (Extended a .single)) :
    UpTo 1 (larger zero (Component.widen (v.cosine u) : Extended a .double)) := by
  cases number : isNaN (u.normalize.dot v.normalize) with
  | false => exact upTo_larger_zero (within_convert (within_clip number))
  | true =>
    -- What is undefined is neither below nor above a bound, and never the larger one.
    have undefined : u.normalize.dot v.normalize = .undefined := by
      cases found : u.normalize.dot v.normalize with
      | undefined => rfl
      | finite | infinite =>
        rw [found] at number
        cases number
    have lost : larger zero (Component.widen (v.cosine u) : Extended a .double) = zero := by
      rw [Embedding.cosine, Embedding.alignment, undefined, clip_undefined]
      cases (zero : Extended a .double) <;> rfl
    rw [lost]
    exact upTo_zero

namespace Service

/-- Malformed data of a reader fails no request. Whatever list and record are stored, a request in
order that overrides nothing ends with the empty page if the list is no vector, and otherwise with a
page of a ranking whose final scores are finite. The weights of the ranking are those of the record
if it gives any, or else the configured ones. -/
theorem feed_of_malformed (ready : service.IsSound) (sound : deployment.IsSound)
    (steady : isFinite service.config.ranking.decayRate = true)
    {request : FeedRequest (Extended a .double)} {query : FeedQuery (Extended a .double)}
    (plain : checkFeed service.config { request with overrides := [] } = .ok query)
    (bare : ∀ change ∈ request.overrides, change.2 = .null)
    (once : (request.overrides.map Prod.fst).Nodup) (whole : request.identity.isWhole = true)
    (known : deployment.tables.user? request.identity ≠ none)
    (legible : Json.IsLegible (Extended a .single) components) (short : Weights.IsShort fields)
    (moderate : ∀ weights, service.Applies fields weights →
      weights.IsModerate service.config.caps)
    (coherent : (deployment.storing request.identity components fields).IsCoherent service
      fun _ => False) :
    let stored := deployment.storing request.identity components fields
    ∃ response, (stored.perform (service.answer (.feed request))).1 = .ok (.feed response) ∧
      (¬ Json.FormVector components → response = .empty request.identity) ∧
      (Json.FormVector components → ∃ weights selection ranked,
        service.Applies fields weights ∧
        service.select request.identity stored query.pageSize = .ok selection ∧
        rank weights service.config.ranking.diversityThreshold selection.candidates = .ok ranked ∧
        (∀ s ∈ ranked, isFinite s.final = true) ∧
        response = service.pageOf query selection.authors ranked) := by
  intro stored
  obtain ⟨own, given, applies⟩ : ∃ own,
      service.weightsOf stored.tables request.identity = .ok own ∧ service.Applies fields own :=
    weightsOf_storing known short
  -- With nothing to change, the weights are those below, and the overrides fit any.
  have nothing : Weights.changes request.overrides = [] :=
    List.filter_eq_nil_iff.2 fun change member => by rw [bare change member]; exact Bool.false_ne_true
  have kept (weights : Weights (Extended a .double)) :
      weights.withOverrides request.overrides = .ok weights := by
    rw [Weights.withOverrides, nothing]
    rfl
  have laid {below weights : Weights (Extended a .double)} (valid : below.IsValid) :
      Weights.LaidOver request.overrides below weights ↔ below = weights := by
    rw [← Weights.withOverrides_ok_iff once valid, kept]
    exact ⟨Except.ok.inj, congrArg _⟩
  have base := weightsOf_eq given
  have valid := baseWeights_isValid ready.accepted stored.tables request.identity
  have fits : ∃ weights, Weights.LaidOver request.overrides service.config.weights weights :=
    ⟨_, (laid (Config.isValid_of_accepted ready.accepted)).2 rfl⟩
  by_cases vector : Json.FormVector components
  · have other := (laid valid).2 base.symm
    have proper := (base ▸ valid : own.IsValid).toIsProper
    obtain ⟨selection, selected, ended⟩ := eval_answer_ranks ready plain whole once fits
      (Deployment.isSound_storing sound legible vector) ⟨own, given⟩ other
    -- All signals of a candidate are within the configured caps, which keeps the final scores
    -- finite.
    have bounded : ∀ peak, service.config.caps.peak.value? = some peak →
        ∀ c ∈ selection.candidates, c.IsBounded peak := by
      intro peak highest c member
      obtain ⟨_, _, _, _, _, _, _, _, _, _, _, _, _, made⟩ := candidate_of_select selected member
      exact isBounded_of_candidateOf ready.accepted highest steady (upTo_cosine _ _) made
    obtain ⟨ranked, ordered, finals⟩ := ranks_of_isBounded proper (moderate own applies) bounded
    rw [ordered] at ended
    exact ⟨_, (perform_coherent coherent (.feed request)).1.trans ended,
      fun other => absurd vector other, fun _ =>
        ⟨own, selection, ranked, applies, selected, ordered, finals, rfl⟩⟩
  · have rows : ∀ row ∈ deployment.tables.recentSaves request.identity
        service.config.ranking.recentSavesLimit, row ∈ deployment.tables.posts :=
      fun row member => Tables.mem_recentSaves member
    obtain ⟨saved, saves⟩ := Tables.posts_isOk (C := Extended a .single) sound.tables rows
    refine ⟨.empty request.identity, ?_, fun _ => rfl, fun other => absurd other vector⟩
    rw [(perform_coherent coherent (.feed request)).1]
    refine eval_answer_of_unread ready plain whole once fits saves given (kept own) ?_
    intro entries present
    rw [Deployment.user?_storing] at present
    obtain ⟨user, found, kept⟩ := Option.bind_eq_some_iff.1 present
    obtain ⟨before, -, rfl⟩ := Option.map_eq_some_iff.1 found
    cases (Option.filter_eq_some_iff.1 kept).1
    exact Json.readInterest_of_legible legible vector

end Service

end

theorem onePost_isLegible (count : Nat) : Json.IsLegible (Extended machine .single)
    (List.replicate count (.int 1 : Json (Extended machine .double))) := by
  refine Json.isLegible_of_components fun component member => ?_
  rw [List.eq_of_mem_replicate member]
  exact ⟨one, toReal_one, not_isNaN value?_narrow_one⟩

/-- A record that weighs one signal gives no weights, so the configured ones count. With it and one
number for a vector the reader of a post gets nothing, with as many numbers as a vector has the
post. -/
theorem feed_of_malformed_of_onePost :
    let service : Service (Extended machine .double) := .standard "discovery" ⟨0, 0⟩
    let request : FeedRequest (Extended machine .double) := ⟨"ann", .int 1, .null, []⟩
    let stored (count : Nat) :=
      onePost.storing "ann" (List.replicate count (.int 1)) [("similarity", .int 1)]
    ((stored 1).perform (service.answer (.feed request))).1 = .ok (.feed (.empty "ann")) ∧
      ∃ response selection ranked,
        ((stored 1024).perform (service.answer (.feed request))).1 = .ok (.feed response) ∧
        service.select "ann" (stored 1024) 1 = .ok selection ∧
        rank .default service.config.ranking.diversityThreshold selection.candidates =
          .ok ranked ∧
        response = service.pageOf ⟨"ann", 1, none, []⟩ selection.authors ranked := by
  intro service request stored
  have plain : Service.checkFeed service.config { request with overrides := [] } =
      .ok ⟨"ann", 1, none, []⟩ := rfl
  have bare : ∀ change ∈ request.overrides, change.2 = .null :=
    fun change member => absurd member List.not_mem_nil
  have known : onePost.tables.user? "ann" ≠ none :=
    Option.ne_none_iff_isSome.2 (by decide)
  have short : Weights.IsShort [("similarity", (.int 1 : Json (Extended machine .double)))] := by
    intro signal n given
    cases signal with
    | similarity =>
      cases given
      decide
    | temporal | diversity | engagement | privacy => cases given
  have applies : ∀ weights, service.Applies [("similarity", .int 1)] weights →
      weights = .default := by
    rintro weights (recorded | ⟨-, rfl⟩)
    · cases List.mem_singleton.1 ((recorded.named "temporal").2 ⟨.temporal, rfl⟩)
    · rfl
  have moderate : ∀ weights, service.Applies [("similarity", .int 1)] weights →
      weights.IsModerate service.config.caps := by
    intro weights other
    rw [applies weights other]
    exact ⟨by decide +kernel, by decide +kernel⟩
  have coherent (count : Nat) : (stored count).IsCoherent service fun _ => False :=
    ⟨rfl, rfl, ⟨onePost_isSound.tables.dated.1, onePost_isSound.tables.dated.2⟩,
      CacheStore.holds_of_empty rfl⟩
  have ends (count : Nat) := Service.feed_of_malformed Service.machine_isSound onePost_isSound
    (by decide +kernel) plain bare .nil (by decide) known (onePost_isLegible count) short moderate
    (coherent count)
  constructor
  · obtain ⟨response, ended, empty, -⟩ := ends 1
    rw [ended, empty fun vector => absurd vector.1 (by decide)]
  · obtain ⟨response, ended, -, full⟩ := ends 1024
    have vector : Json.FormVector
        (List.replicate 1024 (.int 1 : Json (Extended machine .double))) := by
      refine ⟨List.length_replicate, fun component member => ⟨one, ?_⟩⟩
      rw [List.eq_of_mem_replicate member]
      exact toReal_one
    obtain ⟨weights, selection, ranked, other, selected, ordered, -, same⟩ := full vector
    rw [applies weights other] at ordered
    exact ⟨response, selection, ranked, ended, selected, ordered, same⟩

end PersonalFeed
