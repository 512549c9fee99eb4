import PersonalFeed.Paging

/-!
Pages of a ranking and walks over them. Ids that differ lead from the end of a page to the start of
the next one, so a walk shows every item once and in its place.
-/

set_option autoImplicit false

namespace PersonalFeed.Page

variable {α : Type} {id : α → Text} {ranked : List α} {size start : Nat}

theorem items_startingAt :
    (startingAt id ranked start size).items = (ranked.drop start).take size := by
  have inside : ¬ (start + size : Int) < 0 := by omega
  have place : stop ranked.length start size = start + size := by
    unfold stop
    dsimp only
    rw [if_neg inside]
    omega
  change (ranked.take (stop ranked.length start size)).drop start = _
  rw [place, List.drop_take, Nat.add_sub_cancel_left]

theorem hasNext_startingAt :
    (startingAt id ranked start size).hasNext = true ↔ start + size < ranked.length := by
  change decide ((start : Int) + size < ranked.length) = true ↔ _
  rw [decide_eq_true_iff]
  omega

theorem next_startingAt :
    (startingAt id ranked start size).next =
      if (startingAt id ranked start size).hasNext = true
      then (startingAt id ranked start size).items.getLast?.map id else none := rfl

theorem mem_slice {size : Int} {cursor : Option Text} {item : α}
    (member : item ∈ (slice id ranked size cursor).items) : item ∈ ranked := by
  have within (start : Nat) (inside : item ∈ (startingAt id ranked start size).items) :
      item ∈ ranked :=
    List.mem_of_mem_take (List.mem_of_mem_drop inside)
  cases cursor with
  | none => exact within 0 member
  | some cursor =>
    rw [slice] at member
    split at member
    · cases member
    · exact within _ member

theorem slice_nil (size : Nat) (cursor : Option Text) :
    slice id [] size cursor = ⟨[], none, false⟩ := by
  cases cursor with
  | none => simp [slice, startingAt]
  | some cursor => rfl

theorem getLast_startingAt (positive : 0 < size) (more : start + size < ranked.length) :
    (startingAt id ranked start size).items.getLast? = ranked[start + size - 1]? := by
  have count : ((ranked.drop start).take size).length = size := by
    rw [List.length_take, List.length_drop]
    omega
  rw [items_startingAt, List.getLast?_eq_getElem?, count, List.getElem?_take_of_lt (by omega),
    List.getElem?_drop]
  congr 1
  omega

theorem next_eq_none (positive : 0 < size) :
    (startingAt id ranked start size).next = none ↔
      (startingAt id ranked start size).hasNext = false := by
  rw [next_startingAt]
  cases more : (startingAt id ranked start size).hasNext with
  | false => simp
  | true =>
    have inside := hasNext_startingAt.1 more
    rw [if_pos rfl, getLast_startingAt positive inside, List.getElem?_eq_getElem (by omega)]
    simp

theorem after?_eq (distinct : (ranked.map id).Nodup) {place : Nat} {item : α}
    (there : ranked[place]? = some item) : after? id (id item) ranked = some (place + 1) := by
  obtain ⟨inside, rfl⟩ := List.getElem?_eq_some_iff.1 there
  have found : ranked.findIdx? (fun other => decide (id other = id ranked[place])) = some place := by
    rw [List.findIdx?_eq_some_iff_getElem]
    refine ⟨inside, decide_eq_true rfl, fun j earlier same => ?_⟩
    have equal := of_decide_eq_true same
    have apart := List.pairwise_iff_getElem.1 distinct j place (by rw [List.length_map]; omega)
      (by rwa [List.length_map]) earlier
    rw [List.getElem_map, List.getElem_map] at apart
    exact apart equal
  rw [after?, found]
  rfl

theorem slice_next (positive : 0 < size) (distinct : (ranked.map id).Nodup)
    (more : (startingAt id ranked start size).hasNext = true) :
    slice id ranked size (startingAt id ranked start size).next =
      startingAt id ranked (start + size) size := by
  have inside := hasNext_startingAt.1 more
  obtain ⟨item, there⟩ : ∃ item, ranked[start + size - 1]? = some item :=
    ⟨_, List.getElem?_eq_getElem (by omega)⟩
  rw [next_startingAt, if_pos more, getLast_startingAt positive inside, there, Option.map_some,
    slice, after?_eq distinct there]
  dsimp only
  congr 1
  omega

theorem items_infix (cursor : Option Text) : (slice id ranked size cursor).items <:+: ranked := by
  have part (start : Nat) : (startingAt id ranked start size).items <:+: ranked := by
    rw [items_startingAt]
    exact (List.take_prefix _ _).isInfix.trans (List.drop_suffix _ _).isInfix
  cases cursor with
  | none => exact part 0
  | some cursor =>
    rw [slice]
    split
    · exact List.nil_infix
    · exact part _

theorem exists_startingAt {cursor : Option Text}
    (more : (slice id ranked size cursor).hasNext = true) :
    ∃ start, slice id ranked size cursor = startingAt id ranked start size := by
  cases cursor with
  | none => exact ⟨0, rfl⟩
  | some cursor =>
    rw [slice] at more ⊢
    cases place : after? id cursor ranked with
    | none =>
      rw [place] at more
      cases more
    | some start => exact ⟨start, rfl⟩

theorem items_append_infix (start size : Nat) :
    (startingAt id ranked start size).items ++ (startingAt id ranked (start + size) size).items <:+:
      ranked := by
  rw [items_startingAt, items_startingAt, ← List.drop_drop, ← List.take_add]
  exact (List.take_prefix _ _).isInfix.trans (List.drop_suffix _ _).isInfix

/-- How many pages of a size it takes to show some items; no items take one page. -/
def pagesFor (size count : Nat) : Nat := max 1 ((count + size - 1) / size)

theorem pagesFor_of_le (positive : 0 < size) {count : Nat} (few : count ≤ size) :
    pagesFor size count = 1 := by
  have most : (count + size - 1) / size ≤ 1 := by
    rw [Nat.div_le_iff_le_mul_add_pred positive]
    omega
  exact Nat.max_eq_left most

theorem pagesFor_of_lt (positive : 0 < size) {count : Nat} (many : size < count) :
    pagesFor size count = pagesFor size (count - size) + 1 := by
  have less : count + size - 1 = (count - size + size - 1) + size := by omega
  have least : 1 ≤ (count - size + size - 1) / size := by
    rw [Nat.le_div_iff_mul_le positive]
    omega
  rw [pagesFor, pagesFor, less, Nat.add_div_right _ positive, Nat.max_eq_right least,
    Nat.max_eq_right (by omega)]

/-- Pages that show some items once and in order, each page but the last one full. -/
structure Partition (pages : List (Page α)) (items : List α) (size : Nat) : Prop where
  items_eq : pages.flatMap Page.items = items
  length_eq : pages.length = pagesFor size items.length
  full : ∀ page ∈ pages.dropLast, page.items.length = size ∧ page.hasNext = true
  last : ∀ page ∈ pages.getLast?, page.hasNext = false
  next : ∀ page ∈ pages, page.next = none ↔ page.hasNext = false

def map {β : Type} (f : α → β) (page : Page α) : Page β :=
  ⟨page.items.map f, page.next, page.hasNext⟩

theorem Partition.map {β : Type} (f : α → β) {pages : List (Page α)} {items : List α}
    (partition : Partition pages items size) :
    Partition (pages.map (Page.map f)) (items.map f) size where
  items_eq := by
    rw [← partition.items_eq, List.flatMap_map, List.map_flatMap]
    rfl
  length_eq := by rw [List.length_map, List.length_map, partition.length_eq]
  full page member := by
    rw [← List.map_dropLast] at member
    obtain ⟨before, inside, rfl⟩ := List.mem_map.1 member
    obtain ⟨count, more⟩ := partition.full before inside
    exact ⟨by simpa [Page.map] using count, more⟩
  last page member := by
    rw [List.getLast?_map] at member
    obtain ⟨before, inside, rfl⟩ := Option.map_eq_some_iff.1 member
    exact partition.last before inside
  next page member := by
    obtain ⟨before, inside, rfl⟩ := List.mem_map.1 member
    exact partition.next before inside

theorem mem_of_next {cursor : Text} (named : (startingAt id ranked start size).next = some cursor) :
    ∃ item ∈ ranked, id item = cursor := by
  rw [next_startingAt] at named
  split at named
  · obtain ⟨item, last, rfl⟩ := Option.map_eq_some_iff.1 named
    have inside := List.mem_of_getLast? last
    rw [items_startingAt] at inside
    exact ⟨item, List.mem_of_mem_drop (List.mem_of_mem_take inside), rfl⟩
  · cases named

theorem exists_next (positive : 0 < size) (more : (startingAt id ranked start size).hasNext = true) :
    ∃ item ∈ ranked, (startingAt id ranked start size).next = some (id item) := by
  obtain ⟨cursor, next⟩ : ∃ cursor, (startingAt id ranked start size).next = some cursor := by
    refine Option.ne_none_iff_exists'.1 fun none => ?_
    rw [(next_eq_none positive).1 none] at more
    cases more
  obtain ⟨item, member, rfl⟩ := mem_of_next next
  exact ⟨item, member, next⟩

theorem items_ne_nil (positive : 0 < size) (more : (startingAt id ranked start size).hasNext = true) :
    (startingAt id ranked (start + size) size).items ≠ [] := by
  have inside := hasNext_startingAt.1 more
  rw [items_startingAt, ← List.length_pos_iff, List.length_take, List.length_drop]
  omega

theorem partition_last (positive : 0 < size)
    (last : (startingAt id ranked start size).hasNext = false) :
    Partition [startingAt id ranked start size] (ranked.drop start) size := by
  have count : (ranked.drop start).length = ranked.length - start := List.length_drop
  have few : ranked.length - start ≤ size := by
    have notMore := mt hasNext_startingAt.2 (by rw [last]; exact Bool.false_ne_true)
    omega
  constructor
  · rw [List.flatMap_singleton, items_startingAt, List.take_of_length_le (by omega)]
  · rw [count, pagesFor_of_le positive few]
    rfl
  · exact fun page member => absurd member List.not_mem_nil
  · intro page member
    cases member
    exact last
  · intro page member
    rw [List.mem_singleton.1 member]
    exact next_eq_none positive

theorem Partition.cons {pages : List (Page α)}
    (partition : Partition pages (ranked.drop (start + size)) size) (positive : 0 < size)
    (more : (startingAt id ranked start size).hasNext = true) :
    Partition (startingAt id ranked start size :: pages) (ranked.drop start) size := by
  have count : (ranked.drop start).length = ranked.length - start := List.length_drop
  have many : size < ranked.length - start := by
    have inside := hasNext_startingAt.1 more
    omega
  -- The new page is not the last one, since a partition has one page at least.
  have nonempty : pages ≠ [] := by
    rintro rfl
    have none := partition.length_eq
    rw [List.length_nil, pagesFor] at none
    omega
  constructor
  · rw [List.flatMap_cons, partition.items_eq, items_startingAt, ← List.drop_drop,
      List.take_append_drop]
  · rw [List.length_cons, partition.length_eq, count, pagesFor_of_lt positive many,
      List.length_drop, Nat.sub_add_eq]
  · intro page member
    rw [List.dropLast_cons_of_ne_nil nonempty] at member
    rcases List.mem_cons.1 member with rfl | member
    · refine ⟨?_, more⟩
      rw [items_startingAt, List.length_take, count]
      omega
    · exact partition.full page member
  · intro page member
    rw [List.getLast?_cons_of_ne_nil nonempty] at member
    exact partition.last page member
  · intro page member
    rcases List.mem_cons.1 member with rfl | member
    · exact next_eq_none positive
    · exact partition.next page member

theorem walkFrom_partition (positive : 0 < size) (distinct : (ranked.map id).Nodup) (fuel : Nat)
    {cursor : Option Text} (here : slice id ranked size cursor = startingAt id ranked start size)
    (enough : pagesFor size (ranked.length - start) ≤ fuel) :
    Partition (walkFrom id ranked size fuel cursor) (ranked.drop start) size := by
  -- The place stands for the cursor: where the cursor leads is all that a page depends on.
  induction fuel generalizing start cursor with
  | zero => exact absurd enough (by unfold pagesFor; omega)
  | succ fuel ih =>
    rw [walkFrom, here]
    cases more : (startingAt id ranked start size).hasNext with
    | false =>
      rw [if_neg Bool.false_ne_true]
      exact partition_last positive more
    | true =>
      have inside := hasNext_startingAt.1 more
      rw [pagesFor_of_lt positive (by omega), ← Nat.sub_add_eq] at enough
      have later := ih (slice_next positive distinct more) (Nat.succ_le_succ_iff.1 enough)
      rw [if_pos rfl]
      exact later.cons positive more

theorem after?_eq_none {cursor : Text} (unnamed : cursor ∉ ranked.map id) :
    after? id cursor ranked = none := by
  rw [after?, Option.map_eq_none_iff, List.findIdx?_eq_none_iff]
  intro item member
  exact decide_eq_false fun same => unnamed (List.mem_map.2 ⟨item, member, same⟩)

/-- A page that shows what a ranking has from a place on, and tells whether there is more. -/
structure ShowsFrom (page : Page α) (id : α → Text) (ranked : List α) (start size : Nat) :
    Prop where
  items_eq : page.items = (ranked.drop start).take size
  hasNext_iff : page.hasNext = true ↔ ranked.drop (start + size) ≠ []
  next_isSome : page.next.isSome = page.hasNext
  next_eq : ∀ cursor ∈ page.next, ∃ item ∈ page.items.getLast?, id item = cursor

theorem startingAt_shows (positive : 0 < size) (start : Nat) :
    ShowsFrom (startingAt id ranked start size) id ranked start size where
  items_eq := items_startingAt
  hasNext_iff := by rw [hasNext_startingAt, ne_eq, List.drop_eq_nil_iff, Nat.not_le]
  next_isSome := by
    rw [Bool.eq_iff_iff, ← Bool.not_eq_false, ← Bool.not_eq_false (Page.hasNext _),
      Option.isSome_eq_false_iff, Option.isNone_iff_eq_none, next_eq_none positive]
  next_eq cursor named := by
    rw [next_startingAt] at named
    split at named
    · obtain ⟨item, last, same⟩ := Option.map_eq_some_iff.1 named
      exact ⟨item, last, same⟩
    · cases named

theorem pagesFor_le (positive : 0 < size) (count : Nat) : pagesFor size count ≤ count + 1 := by
  refine Nat.max_le.2 ⟨Nat.le_add_left 1 count, ?_⟩
  rw [Nat.div_le_iff_le_mul_add_pred positive]
  have least : count ≤ size * count := Nat.le_mul_of_pos_left count positive
  rw [Nat.mul_add]
  omega

theorem Partition.isUnfinished_eq {pages : List (Page α)} {items : List α}
    (partition : Partition pages items size) : isUnfinished pages = false := by
  rw [isUnfinished]
  cases last : pages.getLast? with
  | none => rfl
  | some page => exact partition.last page last

/-- Every cursor leads to its place: no cursor to the start, the id of an item behind that item, any
other text to an empty last page. So a walk shows the whole ranking, each item once and in order,
and ends. -/
theorem slice_shows (positive : 0 < size) (distinct : (ranked.map id).Nodup) :
    ShowsFrom (slice id ranked size none) id ranked 0 size ∧
      (∀ place item, ranked[place]? = some item →
        ShowsFrom (slice id ranked size (some (id item))) id ranked (place + 1) size) ∧
      (∀ cursor, cursor ∉ ranked.map id →
        slice id ranked size (some cursor) = ⟨[], none, false⟩) ∧
      Partition (walk id ranked size) ranked size ∧ isUnfinished (walk id ranked size) = false := by
  have enough : pagesFor size (ranked.length - 0) ≤ ranked.length + 2 :=
    Nat.le_succ_of_le (pagesFor_le positive _)
  have partition : Partition (walk id ranked size) ranked size :=
    walkFrom_partition positive distinct _ rfl enough
  refine ⟨startingAt_shows positive 0, fun place item there => ?_, fun cursor unnamed => ?_,
    partition, partition.isUnfinished_eq⟩
  · rw [slice, after?_eq distinct there]
    exact startingAt_shows positive (place + 1)
  · rw [slice, after?_eq_none unnamed]

/-- A ranking of four texts in pages of two, the last of them full. -/
theorem slice_shows_of_four :
    ∃ ranked : List Text, 0 < 2 ∧ (ranked.map fun text => text).Nodup ∧
      (walk (fun text => text) ranked 2).flatMap items = ranked ∧
      (walk (fun text => text) ranked 2).length = 2 := by
  have distinct : (["a", "b", "c", "d"].map Text.ofString |>.map fun text => text).Nodup := by
    decide
  obtain ⟨-, -, -, partition, -⟩ := slice_shows (by decide : 0 < 2) distinct
  exact ⟨_, by decide, distinct, partition.items_eq, partition.length_eq⟩

end PersonalFeed.Page
