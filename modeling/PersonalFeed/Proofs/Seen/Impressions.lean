import PersonalFeed.Proofs.Interest
import PersonalFeed.Proofs.Pages.Safety
import PersonalFeed.Proofs.Seen.Marks

/-!
Ids that come back. What a feed shows is named by ids that the service takes again: as a cursor,
which leads on in the same ranking, and in a report of impressions, after which the post keeps a
tenth of its score.
-/

set_option autoImplicit false

namespace PersonalFeed

open Scalar

variable {C R : Type}

namespace Tables

def marked (tables : Tables R) (mark : Mark) : Tables R :=
  { tables with seen := upsert Mark.key mark tables.seen }

variable {tables : Tables R} {reader post : Text}

theorem recordSeen_single (tables : Tables R) (moment : Timestamp) (reads : reader.isWhole = true)
    (named : post.isWhole = true) :
    tables.recordSeen reader [post] moment =
      .ok (tables.marked ⟨reader, post, moment.withoutZone⟩) := by
  have flawless : Mark.flaw? ⟨reader, post, moment.withoutZone⟩ = none :=
    columnFlaw?_eq_none (by rw [List.all_cons, reads]; simpa using named) rfl
  rw [recordSeen, List.foldlM_cons, addSeen]
  dsimp only
  rw [flawless]
  rfl

theorem mark?_marked (distinct : (tables.seen.map Mark.key).Nodup) (mark : Mark) :
    (tables.marked mark).mark? mark.user mark.post = some mark :=
  mark?_of_mem (nodup_upsert distinct) (self_mem_upsert Mark.key mark tables.seen)

end Tables

variable [Score R] [Component C R]

theorem Tables.IsSound.marked {tables : Tables R} (sound : tables.IsSound C) {mark : Mark}
    (dated : (tables.marked mark).IsDated) : (tables.marked mark).IsSound C where
  dated := dated
  stored := sound.stored
  named := sound.named
  embeddings := sound.embeddings
  interests := sound.interests
  muted := sound.muted

namespace Deployment

variable {deployment other : Deployment C R}

theorem IsSound.of_stores (sound : deployment.IsSound) (tables : other.tables.IsSound C)
    (index : other.index = deployment.index)
    (fixedSearch : other.fixedSearch = deployment.fixedSearch) : other.IsSound where
  tables := tables
  distinct := index ▸ sound.distinct
  written := index ▸ sound.written
  asked := fixedSearch.trans sound.asked

end Deployment

namespace Service

variable {service : Service R} {deployment : Deployment C R} {identity : Text}

/-- A report of one post is accepted, and all that changes are the mark and the cache. -/
theorem perform_recordImpressions (root : service.root.isWhole = true)
    (named : identity.isEmpty = false) (whole : identity.isWhole = true)
    (quiet : deployment.rules = []) {post : Text} (canonical : PostId.IsCanonical post) :
    ∃ cache, deployment.perform (service.recordImpressions identity [.string post]) =
      (.ok 1, { deployment with
        tables := deployment.tables.marked ⟨identity, post, service.now.withoutZone⟩
        cache := cache }) := by
  have read := PostId.isWhole_of_isCanonical canonical
  have checked : checkImpressions identity [(.string post : Json R)] = .ok [post] := by
    rw [checkImpressions, if_neg (by simp [named]), if_neg (by simp [impressionLimit]),
      List.mapM_cons, PostId.check_string "post_id" canonical]
    rfl
  have recorded := Tables.recordSeen_single deployment.tables service.now whole read
  have ran : (Query.recordSeen identity [post] service.now).run deployment.tables =
      .ok ((), deployment.tables.marked ⟨identity, post, service.now.withoutZone⟩) := by
    rw [Query.run, Query.flaw?,
      columnFlaw?_eq_none (by rw [List.all_cons, whole]; simpa using read) rfl]
    dsimp only [Query.answer]
    rw [recorded]
    rfl
  have stored := Deployment.perform_order quiet Task.databaseName
    (.recordSeen identity [post] service.now)
  rw [ran] at stored
  -- To drop what was cached for the reader changes the cache only.
  obtain ⟨cache, dropped, -⟩ := perform_dropOwn { deployment with
      tables := deployment.tables.marked ⟨identity, post, service.now.withoutZone⟩ }
    root named whole (.seen identity) rfl 1
  refine ⟨cache, ?_⟩
  rw [recordImpressions, checked]
  exact (Deployment.perform_bind_ok stored _).trans dropped

theorem noted_of_report [FaithfulText R] (ready : service.IsSound) (sound : deployment.IsSound)
    (coherent : deployment.IsCoherent service fun _ => False) (plain : service.root.IsPlain)
    (dated : service.now.inCalendar = true) (named : identity.isEmpty = false)
    (person : identity.IsPlain) (whole : identity.isWhole = true) {post : Text}
    (canonical : PostId.IsCanonical post) :
    let noted := deployment.perform (service.recordImpressions identity [.string post])
    noted.1 = .ok 1 ∧ noted.2.IsSound ∧ (noted.2.IsCoherent service fun _ => False) ∧
      noted.2.tables = deployment.tables.marked ⟨identity, post, service.now.withoutZone⟩ ∧
      noted.2.index = deployment.index := by
  intro noted
  obtain ⟨cache, reported⟩ : ∃ cache, noted = (.ok 1, { deployment with
      tables := deployment.tables.marked ⟨identity, post, service.now.withoutZone⟩
      cache := cache }) :=
    perform_recordImpressions ready.root named whole coherent.quiet canonical
  have clean : noted.2.IsCoherent service fun _ => False :=
    isCoherent_recordImpressions coherent plain person dated _
  rw [reported] at clean ⊢
  exact ⟨rfl, sound.of_stores (sound.tables.marked clean.dated) rfl rfl, clean, rfl, rfl⟩

theorem visible_of_selectNear {tables : Tables R} {index : Index C}
    {interest : Embedding C} {size : Nat} {selection : Selection C R}
    (selected : service.selectNear tables identity index interest size = .ok selection) :
    ∃ found posts, service.retrieve tables identity index interest size = .ok found ∧
      (tables.posts.filter fun row => (found.map (·.id)).contains row.id).mapM PostRow.post =
        .ok posts ∧
      selection.visible = visibleOf tables identity (inFoundOrder found posts) := by
  obtain ⟨found, retrieved, selected⟩ := ok_of_bind selected
  obtain ⟨posts, read, selected⟩ := ok_of_bind selected
  obtain ⟨reader, _, selected⟩ := ok_of_bind selected
  obtain ⟨candidates, _, selected⟩ := ok_of_bind selected
  cases selected
  exact ⟨found, posts, ok_of_mapError retrieved, ok_of_mapError read, rfl⟩

theorem visible_of_marked {other : Deployment C R} {mark : Mark} {size : Nat}
    {selection again : Selection C R} (tables : other.tables = deployment.tables.marked mark)
    (index : other.index = deployment.index)
    (selected : service.select identity deployment size = .ok selection)
    (reselected : service.select identity other size = .ok again) :
    again.visible = selection.visible := by
  have known : other.tables.user? identity = deployment.tables.user? identity := by
    rw [tables]
    rfl
  unfold select at selected reselected
  rw [known] at reselected
  cases stored : (deployment.tables.user? identity).bind UserRow.interestVector with
  | none =>
    rw [stored] at selected reselected
    cases selected
    cases reselected
    rfl
  | some components =>
    rw [stored] at selected reselected
    obtain ⟨interest, read, selected⟩ := ok_of_bind selected
    obtain ⟨interest', read', reselected⟩ := ok_of_bind reselected
    cases read.symm.trans read'
    cases interest with
    | none =>
      cases selected
      cases reselected
      rfl
    | some interest =>
      -- What is near the interest and what the rows tell are the same in both, and no mark is
      -- looked at for either.
      dsimp only at reselected
      rw [tables, index] at reselected
      obtain ⟨found, posts, retrieved, rows, visible⟩ := visible_of_selectNear selected
      obtain ⟨found', posts', retrieved', rows', visible'⟩ := visible_of_selectNear reselected
      cases retrieved.symm.trans retrieved'
      cases rows.symm.trans rows'
      exact visible'.trans visible.symm

/-- A candidate keeps the share of its score that the marks of the tables tell. -/
theorem seen_of_select (universal : service.now.offset = 0) {size : Nat}
    {selection : Selection C R}
    (selected : service.select identity deployment size = .ok selection)
    (distinct : (deployment.tables.seen.map Mark.key).Nodup) {c : Candidate C R}
    (member : c ∈ selection.candidates)
    (exact : ∀ mark, deployment.tables.mark? identity c.post.id = some mark →
      lt (ofInt service.config.ranking.seenRetentionDays)
        (mark.moment.daysUntil service.now : R) =
          decide (service.config.ranking.seenRetentionDays * Timestamp.microsPerDay <
            service.now.micros - mark.moment.micros)) :
    c.seen = deployment.tables.seenScore service.config.ranking.seenRetentionDays service.now
      identity c.post.id := by
  obtain ⟨_, _, _, _, since, saved, found, post, _, _, _, _, start, made⟩ :=
    candidate_of_select selected member
  rw [post_of_candidateOf made] at exact ⊢
  obtain ⟨days, counted, share⟩ := seen_of_candidateOf made
  -- What was loaded tells of all marks since the start of the window, and an earlier mark is worth
  -- nothing.
  have tells : deployment.tables.Tells identity (service.config.windowStart service.now)
      (deployment.tables.seenSince identity since) :=
    Tables.tells_seenSince (Tables.retains_self _ _)
      (early_of_retentionStart universal (Int.le_refl _) start)
  have worth := Tables.seenMultiplier_of_tells distinct exact tells
  have told := (congrArg (Except.map seenMultiplier) counted).symm.trans worth
  exact share.trans (Except.ok.inj told)

section

variable [SignRules R] {query : FeedQuery R} {weights : Weights R} {selection : Selection C R}
variable {ranked : List (Scored C R)}

/-- A ranking has just the posts that may be seen, no two of them have one id, and each id is
spelled as the service takes it. -/
theorem ids_of_rank (ready : service.IsSound) (sound : deployment.IsSound)
    (weighed : service.weightsFor deployment.tables query = .ok weights)
    (selected : service.select query.identity deployment query.pageSize = .ok selection)
    (ordered : rank weights service.config.ranking.diversityThreshold selection.candidates =
      .ok ranked) :
    (ranked.map fun s => s.post.id).Perm (selection.visible.map Post.id) ∧
      (ranked.map fun s => s.post.id).Nodup ∧ ∀ s ∈ ranked, PostId.IsCanonical s.post.id := by
  obtain ⟨other, found, faithful⟩ := select_isOk ready sound query.identity query.pageSize
  cases selected.symm.trans found
  have proper := isProper_of_weightsFor ready weighed
  have posts : (ranked.map Scored.post).Perm selection.visible :=
    faithful.posts ▸ posts_of_rank (fun c member hits =>
      Candidate.isBottom_finalWith proper (faithful.up c member) hits) ordered
  have ids := posts.map Post.id
  rw [List.map_map] at ids
  refine ⟨ids, ids.nodup_iff.2 faithful.distinct, fun s member => ?_⟩
  obtain ⟨row, there, same⟩ := faithful.stored _ (posts.mem_iff.1 (List.mem_map_of_mem member))
  exact same ▸ sound.tables.named row there

omit [Component C R] [SignRules R] in
theorem map_postId_hydrate (authors : List Author) (sign : Option MediaSigner)
    (ranked : List (Scored C R)) :
    (hydrate authors sign ranked).map FeedItem.postId = ranked.map fun s => s.post.id :=
  List.map_map

theorem eval_following [FaithfulText R] (ready : service.IsSound) (sound : deployment.IsSound)
    {request : FeedRequest R} (checked : checkFeed service.config request = .ok query)
    (whole : request.identity.isWhole = true) (once : (request.overrides.map Prod.fst).Nodup)
    (weighed : service.weightsFor deployment.tables query = .ok weights)
    (selected : service.select query.identity deployment query.pageSize = .ok selection)
    (ordered : rank weights service.config.ranking.diversityThreshold selection.candidates =
      .ok ranked)
    (more : (service.pageOf query selection.authors ranked).hasNext = true) :
    let response := service.pageOf query selection.authors ranked
    ∃ next, (service.answer (.feed (request.following response))).eval deployment.answers =
        .ok (.feed next) ∧
      next.items ≠ [] ∧
      response.items ++ next.items <:+: hydrate selection.authors service.sign ranked := by
  intro response
  obtain ⟨-, distinct, spelled⟩ := ids_of_rank ready sound weighed selected ordered
  have positive := size_of_checkFeed checked
  have page : response.page = (Page.slice (fun s : Scored C R => s.post.id) ranked query.pageSize
      query.cursor).map (Scored.item selection.authors service.sign) := rfl
  have more : (Page.slice (fun s : Scored C R => s.post.id) ranked query.pageSize
      query.cursor).hasNext = true := more
  obtain ⟨start, here⟩ := Page.exists_startingAt more
  rw [here] at page more
  obtain ⟨s, member, next⟩ := Page.exists_next positive more
  have canonical := spelled s member
  -- The cursor is accepted as it is, and leads to where the page ends.
  have leads := Page.slice_next positive distinct more
  rw [next] at leads
  have named : response.next = some s.post.id := (congrArg Page.next page).trans next
  have person : query.identity.isWhole = true := identity_of_checkFeed checked ▸ whole
  have given : (query.overrides.map Prod.fst).Nodup := overrides_of_checkFeed checked ▸ once
  have ended : (service.answer (.feed { request with cursor := .string s.post.id })).eval
      deployment.answers = _ := eval_feed ready sound
    (checkFeed_of_cursor checked (PostId.checkCursor_string canonical)) person given
    (fun post placed => Option.some.inj placed ▸ PostId.isWhole_of_isCanonical canonical)
    weighed selected ordered
  have later := page_pageOf service { query with cursor := some s.post.id } selection.authors ranked
  rw [leads] at later
  have shown := congrArg Page.items page
  have shownNext := congrArg Page.items later
  refine ⟨service.pageOf { query with cursor := some s.post.id } selection.authors ranked,
    ?_, ?_, ?_⟩
  · rw [FeedRequest.following, named]
    exact ended
  · intro none
    exact Page.items_ne_nil positive more (List.map_eq_nil_iff.1 (shownNext.symm.trans none))
  · have apart : response.items ++
        (service.pageOf { query with cursor := some s.post.id } selection.authors ranked).items =
          hydrate selection.authors service.sign
            ((Page.startingAt (fun s => s.post.id) ranked start query.pageSize).items ++
              (Page.startingAt (fun s => s.post.id) ranked (start + query.pageSize)
                query.pageSize).items) :=
      (congrArg₂ (· ++ ·) shown shownNext).trans List.map_append.symm
    rw [apart]
    exact (Page.items_append_infix start query.pageSize).map _

end

end Service

namespace Extended

variable {a : Arithmetic} {w : Width}

theorem zero_div_ofRat {q : ℚ} (nonzero : q ≠ 0) : zero / (ofRat q : Extended a w) = zero := by
  by_cases inRange : |q| ≤ a.largest w
  · rw [div_of_value value?_zero (value?_ofRat inRange) nonzero, zero_div, zero_eq]
  · obtain ⟨_, none⟩ := zero_finite (a := a) (w := w)
    rw [ofRat, dif_neg inRange, none]
    exact zero_eq.symm.trans none

theorem daysUntil_of_same {earlier later : Timestamp} (same : earlier.micros = later.micros) :
    (earlier.daysUntil later : Extended a w) = zero := by
  have seconds : (earlier.secondsUntil later : Extended a w) = zero := by
    rw [Timestamp.secondsUntil, same, Int.sub_self, ratio_eq, Int.cast_zero, zero_div, zero_eq]
  rw [Timestamp.daysUntil, seconds]
  exact zero_div_ofRat (by norm_num)

theorem recovery_zero (start : a.exp2 0 = 1) : recovery (zero : Extended a w) = ratio 1 10 := by
  have small {q : ℚ} (up : 0 ≤ q) (below : q ≤ 1) : (ofRat q : Extended a w).value? = some q :=
    value?_ofRat (inRange_of_le (by linarith) (by linarith))
  have tenth : (ratio 1 10 : Extended a w).value? = some (1 / 10) := by
    rw [ratio_eq]
    norm_num [small]
  have days : larger zero zero = (zero : Extended a w) := ite_self _
  -- Each step of the formula at zero is exact: nothing is gained, and the growth is by one.
  have gained : (zero * ratio 1 20 : Extended a w) = zero := by
    rw [ratio_eq, mul_of_value value?_zero (small (by norm_num) (by norm_num)), zero_mul, zero_eq]
  have grown : Exponential.exp2 (zero / ofInt 18 : Extended a w) = one := by
    have age : (zero / ofInt 18 : Extended a w) = zero := zero_div_ofRat (by norm_num)
    obtain ⟨_, none⟩ := zero_finite (a := a) (w := w)
    rw [age, none, one_eq, ← start]
    rfl
  have base : (ratio 1 10 * one : Extended a w) = ratio 1 10 := by
    rw [mul_of_value tenth value?_one, mul_one, ← eq_ofRat tenth]
  have sum : (ratio 1 10 + zero : Extended a w) = ratio 1 10 := by
    rw [add_of_value tenth value?_zero, add_zero, ← eq_ofRat tenth]
  have some : le (one : Extended a w) zero = false := by
    rw [le_of_value value?_one value?_zero]
    norm_num
  have part : lt (ratio 1 10 : Extended a w) one = true := by
    rw [lt_of_value tenth value?_one]
    norm_num
  unfold recovery
  dsimp only
  rw [days, gained, some, if_neg Bool.false_ne_true, grown, base, sum, larger, ite_self, smaller,
    if_pos part]

theorem shownScore_tenth : shownScore (ratio 1 10 : Extended a w) = ratio 1 10 := by
  have inRange : |(1 / 10 : ℚ)| ≤ a.largest w := inRange_of_le (by norm_num) (by norm_num)
  have tenth : (ratio 1 10 : Extended a w) = finite (1 / 10) inRange := by
    rw [ratio_eq, ← ofRat_inRange inRange]
    norm_num
  have rounded : Numeral.roundPlaces 6 (1 / 10 : ℚ) = 1 / 10 := by decide +kernel
  rw [shownScore, tenth]
  change ofRat (Numeral.roundPlaces 6 (1 / 10 : ℚ)) = _
  rw [rounded, ofRat_inRange inRange]

end Extended

namespace Service

open Extended

variable {a : Arithmetic} {service : Service (Extended a .double)}
variable {deployment after : Deployment (Extended a .single) (Extended a .double)}

structure IsModerateFor (service : Service (Extended a .double))
    (deployment : Deployment (Extended a .single) (Extended a .double))
    (request : FeedRequest (Extended a .double)) : Prop where
  finite : deployment.IsFinite
  steady : isFinite service.config.ranking.decayRate = true
  weights : ∀ query weights, checkFeed service.config request = .ok query →
    service.weightsFor deployment.tables query = .ok weights →
    weights.IsModerate service.config.caps

theorem IsModerateFor.of_marked {request : FeedRequest (Extended a .double)}
    (moderate : service.IsModerateFor deployment request) {mark : Mark}
    (tables : after.tables = deployment.tables.marked mark)
    (index : after.index = deployment.index) : service.IsModerateFor after request where
  finite := ⟨by rw [tables]; exact moderate.finite.interests,
    index ▸ moderate.finite.directions⟩
  steady := moderate.steady
  weights := by
    rw [tables]
    exact moderate.weights

/-- Whatever ranking a reader gets has a post that was just shown at a tenth of its score. -/
theorem seen_of_marked (start : a.exp2 0 = 1) (ready : service.IsSound)
    (universal : service.now.offset = 0) {identity post : Text}
    (distinct : (deployment.tables.seen.map Mark.key).Nodup)
    (tables : after.tables =
      deployment.tables.marked ⟨identity, post, service.now.withoutZone⟩) {size : Nat}
    {selection : Selection (Extended a .single) (Extended a .double)}
    (selected : service.select identity after size = .ok selection)
    {weights : Weights (Extended a .double)}
    {ranked : List (Scored (Extended a .single) (Extended a .double))}
    (ordered : rank weights service.config.ranking.diversityThreshold selection.candidates =
      .ok ranked) {s : Scored (Extended a .single) (Extended a .double)} (member : s ∈ ranked)
    (named : s.post.id = post) : s.seen = ratio 1 10 := by
  let mark : Mark := ⟨identity, post, service.now.withoutZone⟩
  obtain ⟨c, inside, _, _, rfl⟩ := mem_of_rank ordered member
  have known : after.tables.mark? identity c.post.id = some mark := by
    rw [tables, show c.post.id = post from named]
    exact Tables.mark?_marked distinct mark
  have moment : mark.moment.micros = service.now.micros := by
    rw [Timestamp.micros_withoutZone, universal, Int.add_zero]
  have days : (mark.moment.daysUntil service.now : Extended a .double) = zero :=
    daysUntil_of_same moment
  have kept := Config.keeps_of_accepted ready.accepted .seenRetention (by decide)
  have window : 0 ≤ service.config.ranking.seenRetentionDays := by
    have least : ¬ service.config.ranking.seenRetentionDays < 1 := of_decide_eq_false kept
    omega
  have unique : (after.tables.seen.map Mark.key).Nodup := by
    rw [tables]
    exact nodup_upsert distinct
  have recent : ¬ service.config.ranking.seenRetentionDays * Timestamp.microsPerDay < 0 :=
    Int.not_lt.2 (Int.mul_nonneg window (by decide))
  -- The mark of the post is the new one, and its age is nothing.
  have share := seen_of_select universal selected unique inside fun other found => by
    cases known.symm.trans found
    rw [days, moment, Int.sub_self, decide_eq_false recent]
    exact SignRules.ratio _ _ window
  refine share.trans ?_
  rw [Tables.seenScore, known]
  dsimp only
  rw [moment, Int.sub_self, if_pos (Int.not_lt.1 recent), days, recovery_zero start]

section

variable {request : FeedRequest (Extended a .double)} (ready : service.IsSound)
variable (sound : deployment.IsSound) (coherent : deployment.IsCoherent service fun _ => False)
variable (whole : request.identity.isWhole = true)
variable (once : (request.overrides.map Prod.fst).Nodup)

include ready sound coherent whole once

theorem answers_of_isModerateFor (moderate : service.IsModerateFor deployment request)
    {query : FeedQuery (Extended a .double)} {weights : Weights (Extended a .double)}
    (checked : checkFeed service.config request = .ok query)
    (weighed : service.weightsFor deployment.tables query = .ok weights) :
    ∃ response, (deployment.perform (service.answer (.feed request))).1 =
      .ok (.feed response) := by
  have person : query.identity.isWhole = true := identity_of_checkFeed checked ▸ whole
  have given : (query.overrides.map Prod.fst).Nodup := overrides_of_checkFeed checked ▸ once
  obtain ⟨selection, selected, -⟩ := select_isOk ready sound query.identity query.pageSize
  obtain ⟨ranked, ordered, -⟩ := ranks_finite ready sound moderate.finite moderate.steady
    (isProper_of_weightsFor ready weighed) (moderate.weights query weights checked weighed) selected
  exact ⟨_, (perform_coherent coherent (.feed request)).1.trans
    (eval_feed ready sound checked person given (isWhole_cursor checked) weighed selected
      ordered)⟩

theorem feed_of_marked (start : a.exp2 0 = 1) (universal : service.now.offset = 0)
    {before : Deployment (Extended a .single) (Extended a .double)} {post : Text}
    (distinct : (before.tables.seen.map Mark.key).Nodup)
    (tables : deployment.tables =
      before.tables.marked ⟨request.identity, post, service.now.withoutZone⟩)
    (index : deployment.index = before.index) {response : FeedResponse (Extended a .double)}
    (answered : (deployment.perform (service.answer (.feed request))).1 = .ok (.feed response)) :
    (∀ item ∈ response.items, item.postId = post → item.scores.seen = ratio 1 10) ∧
      ∀ size selection, pageSize service.config request.pageSize = .ok size →
        service.select request.identity before size = .ok selection →
        ∃ ranking, response.items <:+: ranking ∧
          (ranking.map FeedItem.postId).Perm (selection.visible.map Post.id) := by
  rw [(perform_coherent coherent (.feed request)).1] at answered
  obtain ⟨query, weights, selection, ranked, checked, weighed, selected, ordered, rfl⟩ :=
    ranks_of_eval ready sound whole once answered
  have reads := checkFeed_ok_iff.1 checked
  constructor
  · intro item member named
    obtain ⟨s, inside, rfl⟩ := List.mem_map.1 member
    rw [reads.identity] at selected
    have tenth := seen_of_marked start ready universal distinct tables selected ordered
      (Page.mem_slice inside) named
    exact (congrArg shownScore tenth).trans shownScore_tenth
  · intro size other sized found
    cases sized.symm.trans reads.size
    refine ⟨hydrate selection.authors service.sign ranked,
      (Page.items_infix query.cursor).map _, ?_⟩
    -- Both rankings are of the visible posts, and the mark leaves these as they are.
    have ids := (ids_of_rank ready sound weighed selected ordered).1
    rw [reads.identity] at selected
    rw [map_postId_hydrate, ← visible_of_marked tables index found selected]
    exact ids

end

/-- The ids of a page are taken back. Its cursor leads on in the ranking right after the page, and a
report of any of its posts is accepted: from then on every feed of the reader at this moment shows
the post at a tenth of its score, among the same posts as before. -/
theorem feed_takes_back (start : a.exp2 0 = 1) (ready : service.IsSound)
    (sound : deployment.IsSound) (coherent : deployment.IsCoherent service fun _ => False)
    (distinct : (deployment.tables.seen.map Mark.key).Nodup) (plain : service.root.IsPlain)
    (universal : service.now.offset = 0) (dated : service.now.inCalendar = true)
    {request : FeedRequest (Extended a .double)} (person : request.identity.IsPlain)
    (whole : request.identity.isWhole = true) (once : (request.overrides.map Prod.fst).Nodup)
    {response : FeedResponse (Extended a .double)}
    (answered : (deployment.perform (service.answer (.feed request))).1 = .ok (.feed response)) :
    let after := (deployment.perform (service.answer (.feed request))).2
    ∃ ranking : List (FeedItem (Extended a .double)),
      (ranking.map FeedItem.postId).Nodup ∧ response.items <:+: ranking ∧
      (response.hasNext = true → ∃ next,
        (after.perform (service.answer (.feed (request.following response)))).1 =
          .ok (.feed next) ∧
        next.items ≠ [] ∧ response.items ++ next.items <:+: ranking) ∧
      ∀ item ∈ response.items,
        let noted := after.perform
          (service.recordImpressions request.identity [.string item.postId])
        noted.1 = .ok 1 ∧
        (service.IsModerateFor deployment request → ∃ again,
          (noted.2.perform (service.answer (.feed request))).1 = .ok (.feed again)) ∧
        ∀ (later : FeedRequest (Extended a .double)) (again : FeedResponse (Extended a .double)),
          later.identity = request.identity → (later.overrides.map Prod.fst).Nodup →
          (noted.2.perform (service.answer (.feed later))).1 = .ok (.feed again) →
          (∀ shown ∈ again.items, shown.postId = item.postId →
            shown.scores.seen = ratio 1 10) ∧
          (later.pageSize = request.pageSize → ∃ reranked, again.items <:+: reranked ∧
            (reranked.map FeedItem.postId).Perm (ranking.map FeedItem.postId)) := by
  intro after
  obtain ⟨ended, same, stays⟩ := perform_coherent coherent (.feed request)
  obtain ⟨query, weights, selection, ranked, checked, weighed, selected, ordered, rfl⟩ :=
    ranks_of_eval ready sound whole once (ended.symm.trans answered)
  have reads := checkFeed_ok_iff.1 checked
  obtain ⟨ids, unique, spelled⟩ := ids_of_rank ready sound weighed selected ordered
  rw [← map_postId_hydrate selection.authors service.sign] at ids unique
  refine ⟨hydrate selection.authors service.sign ranked, unique,
    (Page.items_infix query.cursor).map _, fun more => ?_, fun item member => ?_⟩
  · obtain ⟨next, leads, some, goesOn⟩ :=
      eval_following ready sound checked whole once weighed selected ordered more
    refine ⟨next, ?_, some, goesOn⟩
    rw [(perform_coherent stays _).1, Deployment.answers_congr same]
    exact leads
  · intro noted
    obtain ⟨s, inside, rfl⟩ := List.mem_map.1 member
    obtain ⟨accepted, kept, clean, recorded, unmoved⟩ := noted_of_report ready
      (sound.of_stores (same.tables.symm ▸ sound.tables) same.index same.fixedSearch) stays plain
      dated reads.named person whole (spelled s (Page.mem_slice inside))
    have tables : noted.2.tables = deployment.tables.marked
        ⟨request.identity, s.post.id, service.now.withoutZone⟩ :=
      recorded.trans (congrArg (Tables.marked · _) same.tables)
    have index : noted.2.index = deployment.index := unmoved.trans same.index
    refine ⟨accepted, fun moderate => ?_, fun later again own given shown => ?_⟩
    · have weighs : service.weightsFor noted.2.tables query = .ok weights := by
        rw [tables]
        exact weighed
      exact answers_of_isModerateFor ready kept clean whole once (moderate.of_marked tables index)
        checked weighs
    · obtain ⟨tenth, reranks⟩ := feed_of_marked ready kept clean (own ▸ whole) given start universal
        distinct (own ▸ tables) index shown
      refine ⟨tenth, fun sized => ?_⟩
      rw [sized, own] at reranks
      rw [reads.identity] at selected
      obtain ⟨reranked, part, order⟩ := reranks query.pageSize selection reads.size selected
      exact ⟨reranked, part, order.trans ids.symm⟩

end Service

def twoShown : Deployment (Extended machine .single) (Extended machine .double) :=
  { onePost with
    tables := { onePost.tables with
      posts := onePost.tables.posts ++ [⟨"1f0e0d0c-0b0a-4908-8706-050403020100", "bob",
        some "second", ⟨0, 0⟩, 0, 0, [], none, none, none, none⟩] }
    index := ⟨onePost.index.points ++
      [⟨"1f0e0d0c-0b0a-4908-8706-050403020100", "bob", .replicate (ratio 1 32)⟩]⟩ }

theorem twoShown_isSound : twoShown.IsSound where
  tables := {
    dated := by
      refine ⟨fun row member => ?_, fun mark member => absurd member List.not_mem_nil⟩
      rcases List.mem_pair.1 member with rfl | rfl <;> exact ⟨rfl, by decide⟩
    stored := by
      intro row member
      rcases List.mem_pair.1 member with rfl | rfl <;> rfl
    named := by
      intro row member
      rcases List.mem_pair.1 member with rfl | rfl <;> exact ⟨by decide +kernel, by decide +kernel⟩
    embeddings := by
      intro row member entries stored
      rcases List.mem_pair.1 member with rfl | rfl <;> cases stored
    interests := onePost_isSound.tables.interests
    muted := onePost_isSound.tables.muted }
  distinct := by decide
  written := by
    intro point member
    rcases List.mem_pair.1 member with rfl | rfl <;> decide
  asked := rfl

theorem twoShown_isFinite : twoShown.IsFinite where
  interests := onePost_isFinite.interests
  directions := by
    intro point member x inside
    have same : point.direction = .replicate (ratio 1 32) := by
      rcases List.mem_pair.1 member with rfl | rfl <;> rfl
    rw [same] at inside
    rw [Array.eq_of_mem_replicate inside]
    decide +kernel

/-- The first of two pages leads to the second one, and a post that was reported comes back at a
tenth. -/
theorem feed_takes_back_of_twoShown :
    let service : Service (Extended machine .double) := .standard "discovery" ⟨0, 0⟩
    let request : FeedRequest (Extended machine .double) := ⟨"ann", .int 1, .null, []⟩
    let after := (twoShown.perform (service.answer (.feed request))).2
    ∃ response, (twoShown.perform (service.answer (.feed request))).1 = .ok (.feed response) ∧
      (response.hasNext = true → ∃ next,
        (after.perform (service.answer (.feed (request.following response)))).1 =
          .ok (.feed next) ∧ next.items ≠ []) ∧
      ∀ item ∈ response.items,
        let noted := after.perform (service.recordImpressions "ann" [.string item.postId])
        noted.1 = .ok 1 ∧ ∃ again,
          (noted.2.perform (service.answer (.feed request))).1 = .ok (.feed again) ∧
          ∀ shown ∈ again.items, shown.postId = item.postId → shown.scores.seen = ratio 1 10 := by
  intro service request after
  have coherent : twoShown.IsCoherent service fun _ => False :=
    ⟨rfl, rfl, twoShown_isSound.tables.dated, CacheStore.holds_of_empty rfl⟩
  have checked : Service.checkFeed service.config request = .ok ⟨"ann", 1, none, []⟩ := rfl
  have weighed : service.weightsFor twoShown.tables ⟨"ann", 1, none, []⟩ = .ok .default := rfl
  have moderate : service.IsModerateFor twoShown request := by
    refine ⟨twoShown_isFinite, by decide +kernel, fun query weights read given => ?_⟩
    cases checked.symm.trans read
    rw [← Except.ok.inj (weighed.symm.trans given)]
    exact ⟨by decide +kernel, by decide +kernel⟩
  have whole : request.identity.isWhole = true := by decide
  have once : (request.overrides.map Prod.fst).Nodup := .nil
  obtain ⟨response, answered⟩ := Service.answers_of_isModerateFor Service.machine_isSound
    twoShown_isSound coherent whole once moderate checked weighed
  obtain ⟨ranking, -, -, leads, takes⟩ := Service.feed_takes_back (by decide +kernel)
    Service.machine_isSound twoShown_isSound coherent .nil (by decide) rfl (by decide) (by decide)
    whole once answered
  refine ⟨response, answered, fun more => ?_, fun item member => ?_⟩
  · obtain ⟨next, ended, some, -⟩ := leads more
    exact ⟨next, ended, some⟩
  · obtain ⟨accepted, answers, shows⟩ := takes item member
    obtain ⟨again, ended⟩ := answers moderate
    exact ⟨accepted, again, ended, (shows request again rfl .nil ended).1⟩

end PersonalFeed
