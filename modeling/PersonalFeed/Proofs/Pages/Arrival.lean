import PersonalFeed.Proofs.Cache.Decoding
import PersonalFeed.Proofs.Interest
import PersonalFeed.Proofs.Losses.Loads
import PersonalFeed.Proofs.Pages.Walk
import PersonalFeed.Proofs.Program.Mirroring
import PersonalFeed.Proofs.Ranking.Contest

/-!
The order of arrival. The index may list what it found in any order, and the store the posts and the
authors that it was asked for. The candidates are the same then in another order, so they are ranked
alike and the page is the same.
-/

set_option autoImplicit false

namespace PersonalFeed

open Scalar

variable {C R : Type}

section

variable {α κ : Type} {key : α → κ} {items items' : List α}

/-- Where no two items are under one key, the item that is found under a key is the one there. -/
theorem find?_key_iff [DecidableEq κ] (once : (items.map key).Nodup) {k : κ} {x : α} :
    items.find? (fun y => key y = k) = some x ↔ x ∈ items ∧ key x = k := by
  constructor
  · intro found
    have named : key x = k := by simpa using List.find?_some found
    exact ⟨List.mem_of_find?_eq_some found, named⟩
  · rintro ⟨there, named⟩
    cases found : items.find? fun y => key y = k with
    | none => exact absurd (decide_eq_true named) (List.find?_eq_none.1 found x there)
    | some y =>
      have other : key y = k := by simpa using List.find?_some found
      rw [List.inj_on_of_nodup_map once (List.mem_of_find?_eq_some found) there
        (other.trans named.symm)]

structure Shuffles (key : α → κ) (items items' : List α) : Prop where
  perm : items'.Perm items
  once : (items.map key).Nodup

namespace Shuffles

theorem symm (same : Shuffles key items items') : Shuffles key items' items where
  perm := same.perm.symm
  once := (same.perm.map key).nodup_iff.2 same.once

theorem find? [DecidableEq κ] (same : Shuffles key items items') (k : κ) :
    items'.find? (fun x => key x = k) = items.find? fun x => key x = k :=
  Option.ext fun x => by
    rw [find?_key_iff same.symm.once, find?_key_iff same.once, same.perm.mem_iff]

theorem reverse (same : Shuffles key items items') :
    Shuffles key items.reverse items'.reverse where
  perm := (items'.reverse_perm.trans same.perm).trans items.reverse_perm.symm
  once := (items.reverse_perm.map key).nodup_iff.2 same.once

end Shuffles

theorem perm_eraseDups [DecidableEq α] (same : items'.Perm items) :
    items'.eraseDups.Perm items.eraseDups := by
  rw [List.perm_ext_iff_of_nodup (nodup_eraseDups _) (nodup_eraseDups _)]
  intro x
  rw [List.mem_eraseDups, List.mem_eraseDups, same.mem_iff]

def Outcome.Shuffled (key : α → κ) : Outcome (List α) → Outcome (List α) → Prop
  | .answer items, .answer items' => Shuffles key items items'
  | outcome, outcome' => outcome' = outcome

theorem Outcome.Shuffled.symm {outcome outcome' : Outcome (List α)}
    (same : outcome.Shuffled key outcome') : outcome'.Shuffled key outcome := by
  cases outcome <;> cases outcome' <;> first | exact Shuffles.symm same | exact Eq.symm same

end

def Query.lists : Query R → Bool
  | content _ | authors _ => true
  | _ => false

def Call.lists : Call C R → Bool
  | search _ _ _ => true
  | query q => q.lists
  | _ => false

structure Answers.Shuffled (answers answers' : Answers C R) : Prop where
  search : ∀ query limit exclusion, Outcome.Shuffled Hit.id
    (answers (.search query limit exclusion)) (answers' (.search query limit exclusion))
  content : ∀ ids ids' : List Text, ids'.Perm ids →
    Outcome.Shuffled PostRow.id (answers (.query (.content ids)))
      (answers' (.query (.content ids')))
  authors : ∀ ids ids' : List Text, ids'.Perm ids →
    Outcome.Shuffled Author.id (answers (.query (.authors ids)))
      (answers' (.query (.authors ids')))
  others : ∀ call, call.lists = false → answers' call = answers call

variable {answers answers' : Answers C R}

theorem Answers.Shuffled.symm (same : answers.Shuffled answers') : answers'.Shuffled answers where
  search query limit exclusion := (same.search query limit exclusion).symm
  content ids ids' perm := (same.content ids' ids perm.symm).symm
  authors ids ids' perm := (same.authors ids' ids perm.symm).symm
  others call plain := (same.others call plain).symm

theorem Program.eval_of_strict {α : Type} {asks : String → Prop}
    {program : Program C R (Except (Stop R) α)} (strict : program.IsStrict asks)
    (agree : ∀ call : Call C R, (∀ name, call.lookup? = some name → asks name) →
      answers' call = answers call) : program.eval answers' = program.eval answers := by
  induction program with
  | done value => rfl
  | ask call next ih =>
    rw [eval_ask, eval_ask, agree call strict.1]
    exact ih _ (strict.2 _).2

def isUnlisted (name : String) : Prop :=
  name ∉ [searchName, (Query.content [] : Query Unit).name, (Query.authors [] : Query Unit).name]

theorem isUnlisted_name {query : Query R} (plain : query.lists = false) :
    isUnlisted query.name := by
  cases query <;> first | (cases plain; done) | simp [isUnlisted, Query.name, searchName]

theorem Call.lists_of_unlisted {call : Call C R}
    (named : ∀ name, call.lookup? = some name → isUnlisted name) : call.lists = false := by
  cases call with
  | query query =>
    cases query <;> first | rfl | exact absurd (by simp [Query.name]) (named _ rfl)
  | search => exact absurd (by simp) (named _ rfl)
  | retrieve | index | openIndex | read | write | delete | scan | count => rfl

namespace Task

variable {α κ : Type} {key : α → κ} {kinds : Stop R → Bool}

theorem eval_of_unlisted (same : answers.Shuffled answers') {task : Task C R α}
    (strict : task.IsStrict isUnlisted) : task.eval answers' = task.eval answers :=
  Program.eval_of_strict strict fun call named => same.others call (Call.lists_of_unlisted named)

theorem leads_ask {call call' : Call C R} {related : call.Reply → call'.Reply → Prop}
    (holds : related (answers call) (answers' call')) :
    Leads answers answers' kinds related (ask call) (ask call') := ⟨_, rfl, holds⟩

theorem leads_count (first second : Count) :
    Leads answers answers' kinds (fun _ _ => True) (count first) (count second) :=
  ⟨(), rfl, trivial⟩

theorem leads_answer (store : String) {outcome outcome' : Outcome (List α)}
    (same : outcome.Shuffled key outcome') :
    Leads answers answers' kinds (Shuffles key) (answer store outcome) (answer store outcome') := by
  cases outcome with
  | answer items =>
    cases outcome' with
    | answer items' => exact leads_pure same
    | broken | down | silent => cases same
  | broken | down | silent =>
    cases same
    exact fun kind => ⟨_, rfl, kind⟩

theorem leads_reading {β : Type} {name : β → κ} {f : α → Except Breakdown β} {items items' : List α}
    (others : ∀ cause, kinds (.fault (.broken cause)) = false) (same : Shuffles key items items')
    (keeps : ∀ x y, f x = .ok y → name y = key x) :
    Leads answers answers' kinds (Shuffles name) (ofBreakdown (items.mapM f))
      (ofBreakdown (items'.mapM f)) := by
  refine leads_ofBreakdown others fun read ended => ?_
  obtain ⟨read', ended', perm⟩ := mapM_perm same.perm ended
  refine ⟨read', ended', perm, ?_⟩
  rw [map_of_mapM keeps ended]
  exact same.once

end Task

namespace Service

variable (same : answers.Shuffled answers')
include same

theorem findNeighbours_leads (interest : Embedding C) (limit : Int) (excluded : IdSet)
    (posts : List Text) :
    Task.Leads answers answers' Stop.isLoss (Shuffles Neighbour.id)
      (findNeighbours interest limit excluded posts)
      (findNeighbours interest limit excluded posts) := by
  unfold findNeighbours
  split
  · exact Task.leads_pure ⟨.refl [], List.nodup_nil⟩
  · refine Task.leads_bind (Task.leads_of_eval (fun _ => rfl) (by simp)) fun exclusion _ asked => ?_
    subst asked
    refine Task.leads_bind (Task.leads_ask (same.search interest limit exclusion))
      fun outcome outcome' replied => ?_
    refine Task.leads_bind (Task.leads_answer _ replied) fun hits hits' listed => ?_
    refine Task.leads_reading (fun _ => rfl) listed fun hit neighbour read => ?_
    obtain ⟨_, _, rfl⟩ := ok_of_map read
    rfl

theorem fetchPosts_leads [Numeral R] [Component C R] {ids ids' : List Text} (perm : ids'.Perm ids) :
    Task.Leads answers answers' Stop.isLoss (Shuffles Post.id)
      (fetchPosts ids : Task C R (List (Post C))) (fetchPosts ids') := by
  unfold fetchPosts
  rw [perm.isEmpty_eq]
  split
  · exact Task.leads_pure ⟨.refl [], List.nodup_nil⟩
  · refine Task.leads_bind (Task.leads_bind
      (Task.leads_ask (same.content _ _ (perm_eraseDups perm)))
      fun outcome outcome' replied => Task.leads_answer _ replied) fun rows rows' listed => ?_
    refine Task.leads_reading (fun _ => rfl) listed fun row post read => ?_
    obtain ⟨_, _, rfl⟩ := ok_of_map read
    rfl

theorem fetchAuthors_leads {ids ids' : List Text} (perm : ids'.Perm ids) :
    Task.Leads answers answers' Stop.isLoss (Shuffles Author.id)
      (fetchAuthors ids : Task C R (List Author)) (fetchAuthors ids') := by
  unfold fetchAuthors
  rw [perm.isEmpty_eq]
  cases ids.isEmpty with
  | true => exact Task.leads_pure ⟨.refl [], List.nodup_nil⟩
  | false =>
    exact Task.leads_bind (Task.leads_ask (same.authors _ _ (perm_eraseDups perm)))
      fun outcome outcome' replied => Task.leads_answer _ replied

end Service

section

variable {found found' : List (Neighbour C R)} {posts posts' : List (Post C)}
variable {authors authors' : List Author}

theorem shuffles_inFoundOrder (near : Shuffles Neighbour.id found found')
    (stored : Shuffles Post.id posts posts') :
    Shuffles Post.id (Service.inFoundOrder found posts) (Service.inFoundOrder found' posts') where
  perm := by
    unfold Service.inFoundOrder
    rw [funext fun neighbour : Neighbour C R => stored.find? neighbour.id]
    exact near.perm.filterMap _
  once := (ids_inFoundOrder found posts).nodup near.once

theorem find?_shuffled (listed : Shuffles Author.id authors authors') :
    Author.find? authors' = Author.find? authors :=
  funext fun id => listed.reverse.find? id

theorem neighbour?_shuffled (near : Shuffles Neighbour.id found found') :
    neighbour? found' = neighbour? found :=
  funext fun id => near.reverse.find? id

theorem visible_shuffled (identity : Text) (context : FeedContext R)
    {authors authors' : Option (List Author)}
    (listed : Option.Rel (Shuffles Author.id) authors authors')
    (stored : Shuffles Post.id posts posts') :
    Shuffles Post.id ((Service.viewpointOf identity context authors).visible posts)
      ((Service.viewpointOf identity context authors').visible posts') := by
  have seen : (Service.viewpointOf identity context authors').canSee =
      (Service.viewpointOf identity context authors).canSee := by
    funext author
    cases listed with
    | none => rfl
    | some listed =>
      unfold Service.viewpointOf
      cases context.blocked with
      | none => rfl
      | some blocked =>
        simp only [Viewpoint.canSee, Edges.author?, find?_shuffled listed]
  unfold Viewpoint.visible
  rw [seen]
  exact ⟨stored.perm.filter _, (List.filter_sublist.map _).nodup stored.once⟩

end

section

theorem Embedding.eq_of_ofTensor {t : Tensor C} {v : Embedding C}
    (read : (ofTensor t : Except (Fault R) (Embedding C)) = .ok v) : t = v.toTensor := by
  unfold ofTensor at read
  split at read
  · rename_i flat
    cases read
    exact eq_of_flatRow? flat
  · split at read <;> cases read

/-- The vectors of posts that can be read together are embeddings, where they are there. -/
theorem readVectors_ok_iff {vectors : List (Option (Tensor C))}
    {read : List (Option (Embedding C))} :
    (readVectors vectors : Except (Fault R) _) = .ok read ↔
      vectors = read.map fun v => v.map Embedding.toTensor := by
  constructor
  · intro ended
    unfold readVectors at ended
    dsimp only at ended
    split at ended
    · rename_i empty
      have all : ∀ v ∈ vectors, v = none := by simpa using empty
      -- Where no post has a vector, none is read, and the list is the one that came.
      cases ended
      rw [List.map_map]
      exact (List.map_id _).symm.trans (List.map_congr_left all)
    · obtain ⟨rows, _, ended⟩ := ok_of_bind ended
      split at ended
      · refine (List.map_id _).symm.trans (map_of_mapM (fun vector v one => ?_) ended).symm
        cases vector with
        | none =>
          cases one
          rfl
        | some t =>
          change (Embedding.ofTensor t : Except (Fault R) _).map some = .ok v at one
          obtain ⟨v, whole, rfl⟩ := ok_of_map one
          rw [Embedding.eq_of_ofTensor whole]
          rfl
      · cases ended
  · rintro rfl
    exact readVectors_tensors read

variable [Score R] [Component C R] {config : Config R} {now : Timestamp}
variable {reader : ReaderContext C R}
variable {found found' : List (Neighbour C R)} {posts posts' : List (Post C)}
variable {candidates : List (Candidate C R)}

theorem candidatesOf_ok_iff :
    candidatesOf config now reader found posts = .ok candidates ↔
      List.Forall₂ (fun post c => ∃ vector : Option (Embedding C),
        vectorOf found post = vector.map Embedding.toTensor ∧
          candidateOf config now reader found post vector = .ok c) posts candidates := by
  -- All vectors are read before the first candidate is made. The two passes are one list of pairs
  -- first, which the induction then takes post by post.
  have steps : candidatesOf config now reader found posts = .ok candidates ↔
      ∃ vectors : List (Option (Embedding C)),
        posts.map (vectorOf found) = (vectors.map fun v => v.map Embedding.toTensor) ∧
        List.Forall₂ (fun (pair : Post C × Option (Embedding C)) c =>
          candidateOf config now reader found pair.1 pair.2 = .ok c) (posts.zip vectors)
            candidates := by
    rw [candidatesOf_eq]
    constructor
    · intro made
      obtain ⟨vectors, read, made⟩ := ok_of_bind made
      exact ⟨vectors, readVectors_ok_iff.1 read, (mapM_ok_iff _ _ _).1 made⟩
    · rintro ⟨vectors, read, made⟩
      rw [readVectors_ok_iff.2 read]
      exact (mapM_ok_iff _ _ _).2 made
  rw [steps]
  clear steps
  induction posts generalizing candidates with
  | nil => simp
  | cons post rest ih =>
    rw [List.forall₂_cons_left_iff]
    constructor
    · rintro ⟨vectors, read, made⟩
      cases vectors with
      | nil => cases read
      | cons vector vectors =>
        obtain ⟨own, read⟩ := List.cons.inj read
        cases made with
        | cons first later => exact ⟨_, _, ⟨vector, own, first⟩, ih.1 ⟨vectors, read, later⟩, rfl⟩
    · rintro ⟨c, others, ⟨vector, own, first⟩, later, rfl⟩
      obtain ⟨vectors, read, made⟩ := ih.2 later
      exact ⟨vector :: vectors, congrArg₂ List.cons own read, .cons first made⟩

theorem posts_of_candidatesOf (made : candidatesOf config now reader found posts = .ok candidates) :
    candidates.map Candidate.post = posts := by
  have each := (candidatesOf_ok_iff.1 made).imp (S := fun post c => post = Candidate.post c)
    fun _ _ one => (post_of_candidateOf one.choose_spec.2).symm
  exact (List.forall₂_eq_eq_eq ▸ List.forall₂_map_right_iff.2 each : posts = _).symm

theorem candidatesOf_shuffled (near : Shuffles Neighbour.id found found')
    (stored : Shuffles Post.id posts posts')
    (made : candidatesOf config now reader found posts = .ok candidates) :
    ∃ candidates', candidatesOf config now reader found' posts' = .ok candidates' ∧
      Shuffles (fun c => c.post.id) candidates candidates' := by
  have vectors : vectorOf found' = vectorOf found :=
    funext fun post => by rw [vectorOf, vectorOf, neighbour?_shuffled near]
  have each : candidateOf config now reader found' = candidateOf config now reader found :=
    funext fun post => by unfold candidateOf similarityOf; rw [neighbour?_shuffled near]
  obtain ⟨candidates', made', perm⟩ :=
    List.perm_comp_forall₂ stored.perm (candidatesOf_ok_iff.1 made)
  refine ⟨candidates', ?_, perm, ?_⟩
  · rw [candidatesOf_ok_iff, vectors, each]
    exact made'
  · have once := stored.once
    rw [← posts_of_candidatesOf made, List.map_map] at once
    exact once

omit [Component C R] in
theorem hydrate_shuffled {authors authors' : List Author}
    (listed : Shuffles Author.id authors authors') (sign : Option MediaSigner)
    (page : List (Scored C R)) :
    hydrate authors' sign page = hydrate authors sign page :=
  List.map_congr_left fun s _ => by simp only [Scored.item, find?_shuffled listed]

omit [Component C R] in
theorem pageOf_shuffled (service : Service R) (query : FeedQuery R)
    {authors authors' : Option (List Author)}
    (listed : Option.Rel (Shuffles Author.id) authors authors') (ranked : List (Scored C R)) :
    service.pageOf query (authors'.getD []) ranked =
      service.pageOf query (authors.getD []) ranked := by
  cases listed with
  | none => rfl
  | some listed => exact congrArg (FeedResponse.mk _ · _ _) (hydrate_shuffled listed ..)

end

namespace Service

variable [Score R] {service : Service R}

theorem profileWeights_isStrict {asks : String → Prop} (profile : Option (Profile R)) :
    (service.profileWeights profile : Task C R (Weights R)).IsStrict asks := by
  unfold profileWeights
  split
  · trivial
  · split
    · trivial
    · split
      · trivial
      · exact Task.isStrict_bind (Task.isStrict_ask rfl) fun _ => trivial
      · trivial

variable [Component C R] (same : answers.Shuffled answers')
include same

theorem eval_loadContext_shuffled (identity : Text) :
    (loadContext (C := C) service identity).eval answers' =
      (loadContext service identity).eval answers := by
  have interest : (service.loadInterest identity).eval answers' = _ :=
    Task.eval_of_unlisted same (loadInterest_isStrict (isUnlisted_name rfl))
  have following : (service.loadFollowing identity).eval answers' = _ :=
    Task.eval_of_unlisted same (loadFollowing_isStrict (isUnlisted_name rfl))
  have blocked : (service.loadBlocked identity).eval answers' = _ :=
    Task.eval_of_unlisted same (loadBlocked_isStrict (isUnlisted_name rfl))
  have seen : (service.loadSeen identity).eval answers' = _ :=
    Task.eval_of_unlisted same (loadSeen_isStrict fun _ => isUnlisted_name rfl)
  have topics : (service.loadTopics identity).eval answers' = _ :=
    Task.eval_of_unlisted same (loadTopics_isStrict fun _ => isUnlisted_name rfl)
  have profile : (service.loadProfile identity).eval answers' = _ :=
    Task.eval_of_unlisted same (loadProfile_isStrict (isUnlisted_name rfl))
  unfold loadContext
  simp only [Task.eval_bind, Task.eval_both, Task.eval_attempt, interest, following, blocked, seen,
    topics, profile]
  rfl

variable [OrderRules R]

theorem computeFrom_leads (query : FeedQuery R) (context : FeedContext R) (weights : Weights R)
    (interest : Embedding C) :
    Task.Leads answers answers' (fun _ => false) Eq
      (service.computeFrom query context weights interest)
      (service.computeFrom query context weights interest) := by
  unfold computeFrom
  refine Task.leads_bind (Task.leads_attempt _ (findNeighbours_leads same ..))
    fun found found' near => ?_
  cases near with
  | none => exact Task.leads_pure rfl
  | some near =>
    dsimp only
    rw [near.perm.isEmpty_eq]
    split
    · exact Task.leads_pure rfl
    · refine Task.leads_bind (Task.leads_attempt _ (fetchPosts_leads same (near.perm.map _)))
        fun posts posts' stored => ?_
      cases stored with
      | none => exact Task.leads_pure rfl
      | some stored =>
        have items := shuffles_inFoundOrder near stored
        refine Task.leads_bind (Task.leads_attempt _ (fetchAuthors_leads same (items.perm.map _)))
          fun authors authors' listed => ?_
        have visible := visible_shuffled query.identity context listed items
        refine Task.leads_bind (Task.leads_ofExcept (fun _ _ => rfl) fun _ made =>
          candidatesOf_shuffled near visible made) fun candidates candidates' shuffled => ?_
        -- The same candidates in any order are ranked alike.
        refine Task.leads_bind (Task.leads_of_eval (fun _ => rfl)
          (by rw [rank_of_perm shuffled.once shuffled.perm]; simp)) fun ranked _ alike => ?_
        subst alike
        refine Task.leads_bind (Task.leads_count _ _) fun _ _ _ => ?_
        refine Task.leads_pure ?_
        rw [pageOf_shuffled service query listed ranked]
        cases listed <;> rfl

theorem computePage_leads (query : FeedQuery R) :
    Task.Leads answers answers' (fun _ => false) Eq (service.computePage (C := C) query)
      (service.computePage query) := by
  unfold computePage
  refine Task.leads_bind (Task.leads_of_eval (fun _ => rfl)
    (eval_loadContext_shuffled same query.identity)) fun context _ loaded => ?_
  subst loaded
  refine Task.leads_bind (Task.leads_of_eval (fun _ => rfl)
    (Task.eval_of_unlisted same (profileWeights_isStrict _))) fun weights _ alike => ?_
  subst alike
  refine Task.leads_bind (Task.leads_of_eval (fun _ => rfl) (by simp)) fun weights _ alike => ?_
  subst alike
  split
  · exact Task.leads_pure rfl
  · refine Task.leads_bind (Task.leads_of_eval (fun _ => rfl) (by simp)) fun interest _ alike => ?_
    subst alike
    cases interest with
    | none =>
      exact Task.leads_bind (Task.leads_count _ _) fun _ _ _ =>
        Task.leads_pure rfl
    | some interest => exact computeFrom_leads same query context weights interest

/-- A page that was shown is shown as well when the stores list in another order. -/
theorem rankFeed_leads (request : FeedRequest R) :
    Task.Leads answers answers' (fun _ => false) Eq (service.rankFeed (C := C) request)
      (service.rankFeed request) := by
  unfold rankFeed
  refine Task.leads_bind (Task.leads_of_eval (fun _ => rfl) (by simp)) fun query _ alike => ?_
  subst alike
  refine Task.leads_bind (Task.leads_count _ _) fun _ _ _ => ?_
  unfold rankFeedChecked
  refine Task.leads_bind (Task.leads_of_eval (fun _ => rfl) (by simp)) fun fingerprint _ alike => ?_
  subst alike
  refine Task.leads_bind (Task.leads_of_eval (fun _ => rfl)
    -- The cache is not listed in any order, so both sides find the same in it.
    (Task.eval_of_unlisted same (cached_isStrict _))) fun kept _ alike => ?_
  subst alike
  cases kept with
  | some value => exact Task.leads_of_eval (fun _ => rfl) (by simp)
  | none =>
    refine Task.leads_bind (computePage_leads same query) fun page _ alike => ?_
    subst alike
    dsimp only
    split
    · exact Task.leads_bind (Task.leads_of_eval (fun _ => rfl)
        (Task.eval_of_unlisted same (keep_isStrict ..))) fun _ _ _ => Task.leads_pure rfl
    · exact Task.leads_pure rfl

end Service

/-- Candidates are ranked alike in whatever order they arrive, and if no score is infinite or
undefined the ranking ends. So a feed is answered alike in whatever order the index lists what it
found, and the store the posts and authors that it was asked for. -/
theorem feed_ignores_order [Score R] [Component C R] [OrderRules R] :
    (∀ (weights : Weights R) (threshold : R) (candidates others : List (Candidate C R)),
      (candidates.map (·.post.id)).Nodup → others.Perm candidates →
        rank weights threshold others = rank weights threshold candidates ∧
        ((∀ c ∈ candidates, ∀ hits, isFinite (c.finalWith weights hits) = true) →
          ∃ ranked, rank weights threshold candidates = .ok ranked)) ∧
    ∀ (service : Service R) (request : FeedRequest R) (answers answers' : Answers C R),
      answers.Shuffled answers' → ∀ response,
        (service.answer (.feed request)).eval answers' = .ok response ↔
          (service.answer (.feed request)).eval answers = .ok response := by
  constructor
  · intro weights threshold candidates others once perm
    refine ⟨rank_of_perm once perm, fun finite => ?_⟩
    exact rank_isOk OrderRules.le_refl
      (fun c member hits => OrderRules.not_bottom (finite c member hits))
      fun c member hits => OrderRules.finite _ (finite c member hits)
  · intro service request answers answers' same response
    have follows {answers answers' : Answers C R} (same : answers.Shuffled answers')
        (ended : (service.answer (.feed request)).eval answers = .ok response) :
        (service.answer (.feed request)).eval answers' = .ok response := by
      obtain ⟨page, shown, made⟩ := ok_of_bind ((Task.eval_bind _ _).symm.trans ended)
      have leads : Task.Leads _ _ _ _ (service.rankFeed request) _ :=
        Service.rankFeed_leads same request
      rw [Task.Leads, shown] at leads
      obtain ⟨_, shown', rfl⟩ := leads
      exact (Task.eval_bind_ok shown' _).trans made
    exact ⟨follows same.symm, follows same⟩

def Outcome.reversed {α : Type} : Outcome (List α) → Outcome (List α)
  | .answer items => .answer items.reverse
  | outcome => outcome

def Answers.reversed (answers : Answers C R) : Answers C R
  | .search query limit exclusion => Outcome.reversed (answers (.search query limit exclusion))
  | .query (.content ids) => Outcome.reversed (answers (.query (.content ids)))
  | .query (.authors ids) => Outcome.reversed (answers (.query (.authors ids)))
  | call => answers call

theorem Outcome.shuffled_reversed {α κ : Type} {key : α → κ} {outcome : Outcome (List α)}
    (once : ∀ items, outcome = .answer items → (items.map key).Nodup) :
    outcome.Shuffled key outcome.reversed := by
  cases outcome with
  | answer items => exact ⟨items.reverse_perm, once items rfl⟩
  | broken | down | silent => rfl

namespace Deployment

variable [Score R] [Component C R] {deployment : Deployment C R}

theorem answers_content {ids ids' : List Text} (perm : ids'.Perm ids) :
    (deployment.answers (.query (.content ids')) : Outcome (List (PostRow R))) =
      deployment.answers (.query (.content ids)) := by
  have run : (Query.content ids' : Query R).run deployment.tables =
      (Query.content ids : Query R).run deployment.tables := by
    simp only [Query.run, Query.flaw?, Query.answer, columnFlaw?, perm.all_eq, perm.contains_eq]
    rfl
  rw [answers_query, answers_query]
  exact congrArg (fun r => outcome (Except.map Prod.fst r)) run

theorem answers_authors {ids ids' : List Text} (perm : ids'.Perm ids) :
    (deployment.answers (.query (.authors ids')) : Outcome (List Author)) =
      deployment.answers (.query (.authors ids)) := by
  have run : (Query.authors ids' : Query R).run deployment.tables =
      (Query.authors ids : Query R).run deployment.tables := by
    simp only [Query.run, Query.flaw?, Query.answer, columnFlaw?, perm.all_eq, perm.contains_eq]
    rfl
  rw [answers_query, answers_query]
  exact congrArg (fun r => outcome (Except.map Prod.fst r)) run

theorem answer_of_outcome {α : Type} {result : Except Breakdown α} {value : α}
    (answered : outcome result = .answer value) : result = .ok value := by
  cases result with
  | ok other =>
    cases answered
    rfl
  | error cause => cases answered

theorem shuffled_reversed (asked : deployment.fixedSearch = none)
    (points : (deployment.index.points.map Point.id).Nodup)
    (posts : (deployment.tables.posts.map PostRow.id).Nodup)
    (users : (deployment.tables.users.map UserRow.id).Nodup) :
    deployment.answers.Shuffled deployment.answers.reversed where
  search query limit exclusion := Outcome.shuffled_reversed fun hits answered => by
    rw [answers_search, asked] at answered
    have searched := answer_of_outcome answered
    obtain ⟨_, checked, _⟩ := ok_of_bind searched
    obtain ⟨hits', found, searched', read, once⟩ := Index.search_isOk checked
    cases searched.symm.trans searched'
    exact ids_of_neighbours read ▸ once points
  content ids ids' perm := by
    change Outcome.Shuffled _ _ (Outcome.reversed (deployment.answers (.query (.content ids'))))
    -- The rows come in the order of the table, whatever the order of the ids that were asked for.
    rw [answers_content perm]
    refine Outcome.shuffled_reversed fun rows answered => ?_
    rw [answers_query] at answered
    obtain ⟨⟨_, _⟩, run, rfl⟩ := ok_of_map (answer_of_outcome answered)
    unfold Query.run at run
    split at run <;> cases run
    exact (List.filter_sublist.map _).nodup posts
  authors ids ids' perm := by
    change Outcome.Shuffled _ _ (Outcome.reversed (deployment.answers (.query (.authors ids'))))
    rw [answers_authors perm]
    refine Outcome.shuffled_reversed fun rows answered => ?_
    rw [answers_query] at answered
    obtain ⟨⟨_, _⟩, run, rfl⟩ := ok_of_map (answer_of_outcome answered)
    unfold Query.run at run
    split at run <;> cases run
    dsimp only
    rw [List.map_map]
    exact (List.filter_sublist.map _).nodup users
  others call plain := by
    cases call with
    | query query => cases query <;> first | rfl | cases plain
    | search => cases plain
    | retrieve | index | openIndex | read | write | delete | scan | count => rfl

end Deployment

/-- Two candidates in both orders, and a page of posts that the stores list in both orders. -/
theorem feed_ignores_order_of_twoPosts :
    let service : Service ℚ := .standard "discovery" ⟨0, 0⟩
    let request : FeedRequest ℚ := ⟨"ann", .int 1, .null, []⟩
    (∃ ranked, rank .default (9 / 10) [plainCandidate "a", plainCandidate "b"] = .ok ranked ∧
      rank .default (9 / 10) [plainCandidate "b", plainCandidate "a"] = .ok ranked) ∧
    ∃ response, (service.answer (.feed request)).eval twoPosts.answers = .ok response ∧
      (service.answer (.feed request)).eval twoPosts.answers.reversed = .ok response := by
  intro service request
  constructor
  · obtain ⟨same, ends⟩ := feed_ignores_order.1 .default (9 / 10)
      [plainCandidate "a", plainCandidate "b"] [plainCandidate "b", plainCandidate "a"] (by decide)
      (.swap _ _ _)
    obtain ⟨ranked, ended⟩ := ends fun _ _ _ => rfl
    exact ⟨ranked, ended, same.trans ended⟩
  · have checked : Service.checkFeed service.config request = .ok ⟨"ann", 1, none, []⟩ := rfl
    have shuffled : twoPosts.answers.Shuffled twoPosts.answers.reversed :=
      Deployment.shuffled_reversed rfl (by decide) (by decide) (by decide)
    obtain ⟨selection, selected, -⟩ :=
      Service.select_isOk Service.standard_isSound twoPosts_isSound "ann" 1
    obtain ⟨ranked, ordered⟩ : ∃ ranked, rank .default
        service.config.ranking.diversityThreshold selection.candidates = .ok ranked :=
      rank_isOk OrderRules.le_refl (fun _ _ _ => rfl) fun _ _ _ => rfl
    have answered := Service.eval_feed Service.standard_isSound twoPosts_isSound checked rfl .nil
      (fun _ given => by cases given) rfl selected ordered
    exact ⟨_, answered, (feed_ignores_order.2 service request _ _ shuffled _).2 answered⟩

end PersonalFeed
