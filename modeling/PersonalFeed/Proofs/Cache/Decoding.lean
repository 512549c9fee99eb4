import PersonalFeed.Feed.Item
import PersonalFeed.Index.Exclusion
import PersonalFeed.Proofs.Results
import PersonalFeed.Service.Context

/-!
Cached values read back. A set of ids is read as the ids that were written, a profile as the one
that was written, and an answer as the one that was written but for the moments of its items, which
are read out of their texts.
-/

set_option autoImplicit false

namespace PersonalFeed

@[simp] theorem Text.ofString_eq_iff (s t : String) : Text.ofString s = Text.ofString t ↔ s = t :=
  ⟨Text.ofString_inj, congrArg _⟩

section

variable {α : Type} [BEq α] [LawfulBEq α]

theorem nodup_eraseDups (items : List α) : items.eraseDups.Nodup := by
  induction length : items.length using Nat.strongRecOn generalizing items with
  | ind n ih =>
    cases items with
    | nil => exact List.nodup_nil
    | cons first rest =>
      rw [List.eraseDups_cons, List.nodup_cons]
      refine ⟨by simp, ih _ ?_ _ rfl⟩
      rw [← length, List.length_cons]
      exact Nat.lt_succ_of_le (List.length_filter_le _ _)

theorem eraseDups_of_nodup {items : List α} (nodup : items.Nodup) : items.eraseDups = items := by
  induction items with
  | nil => rfl
  | cons first rest ih =>
    obtain ⟨fresh, nodup⟩ := List.nodup_cons.1 nodup
    have kept : rest.filter (fun other => !other == first) = rest := by
      refine List.filter_eq_self.2 fun other member => ?_
      simpa using fun same : other = first => fresh (same ▸ member)
    rw [List.eraseDups_cons, kept, ih nodup]

end

@[simp] theorem sortedIds_nil : sortedIds [] = [] := by
  simp [sortedIds]

theorem nodup_sortedIds (ids : List Text) : (sortedIds ids).Nodup := nodup_eraseDups _

theorem mem_sortedIds {ids : List Text} {id : Text} : id ∈ sortedIds ids ↔ id ∈ ids := by
  rw [sortedIds, List.mem_eraseDups, List.mem_mergeSort]

namespace IdSet

variable {R : Type} [Numeral R]

theorem eraseDupsBy_strings (texts : List Text) :
    (texts.map (Json.string (R := R))).eraseDupsBy Json.isSameMember =
      texts.eraseDups.map .string := by
  induction length : texts.length using Nat.strongRecOn generalizing texts with
  | ind n ih =>
    cases texts with
    | nil => rfl
    | cons first rest =>
      have apart : (rest.map (Json.string (R := R))).filter
          (fun other => Json.isSameMember other (.string first) = false) =
            (rest.filter fun other => !other == first).map .string := by
        rw [List.filter_map]
        refine congrArg _ (List.filter_congr fun other _ => ?_)
        by_cases same : other = first <;> simp [Json.isSameMember, same]
      rw [List.map_cons, List.eraseDupsBy_cons, apart, List.eraseDups_cons, List.map_cons,
        ih _ ?_ _ rfl]
      rw [← length, List.length_cons]
      exact Nat.lt_succ_of_le (List.length_filter_le _ _)

theorem ofJson_ofTexts {texts : List Text} (nodup : texts.Nodup) :
    ofJson (.ofTexts texts : Json R) = .ok (.ids texts) := by
  have single : (texts.map (Json.string (R := R))).mapM Json.member =
      .ok ((texts.map .string).map id) := by
    refine mapM_ok_map _ _ _ fun value member => ?_
    obtain ⟨text, _, rfl⟩ := List.mem_map.1 member
    rfl
  have texts? : (texts.map (Json.string (R := R))).filterMap Json.text? = texts := by
    rw [List.filterMap_map]
    exact List.filterMap_some
  rw [ofJson, Json.ofTexts, Json.members, single, List.map_id, Except.map, eraseDupsBy_strings,
    eraseDups_of_nodup nodup, Except.map, ofMembers, if_pos (by simp [Json.isText]), texts?]

end IdSet

theorem Json.listed_array {R : Type} [Scalar R] (items : List (Json R)) :
    (array items).listed = .ok items := by
  cases items <;> simp [listed, isAbsent]

namespace Profile

variable {R : Type} [Scalar R]

theorem ofJson_toJson (profile : Option (Profile R)) : ofJson (toJson profile) = .ok profile := by
  cases profile with
  | none => simp [ofJson, toJson, Json.find?, Json.isAbsent]
  | some profile =>
    simp [ofJson, toJson, Json.find?, Json.isAbsent, Json.listed_array, Except.map]

end Profile

open Schema

namespace Schema

variable {α β R : Type}

@[simp] theorem Checked.map_valid (f : α → β) (value : α) :
    f <$> Checked.valid value = .valid (f value) := rfl

@[simp] theorem Checked.map_invalid (f : α → β) (violations : List Violation) :
    f <$> (Checked.invalid violations : Checked α) = .invalid violations := rfl

@[simp] theorem Checked.seq_valid (f : α → β) (checked : Checked α) :
    Checked.valid f <*> checked = f <$> checked := rfl

@[simp] theorem Checked.within_valid (step : Step) (value : α) :
    (Checked.valid value).within step = .valid value := rfl

theorem valid_of_within {step : Step} {checked : Checked α} {value : α}
    (valid : checked.within step = .valid value) : checked = .valid value := by
  cases checked with
  | valid first => exact valid
  | invalid violations => cases valid

theorem valid_of_map {f : α → β} {checked : Checked α} {value : β}
    (valid : f <$> checked = .valid value) : ∃ first, checked = .valid first ∧ f first = value := by
  cases checked with
  | valid first => exact ⟨first, rfl, Checked.valid.inj valid⟩
  | invalid violations => cases valid

theorem valid_of_seq {f : Checked (α → β)} {checked : Checked α} {value : β}
    (valid : f <*> checked = .valid value) :
    ∃ g first, f = .valid g ∧ checked = .valid first ∧ g first = value := by
  cases f with
  | invalid violations => cases checked <;> cases valid
  | valid g =>
    cases checked with
    | invalid violations => cases valid
    | valid first => exact ⟨g, first, rfl, rfl, Checked.valid.inj valid⟩

theorem itemsFrom_valid_iff (read : Reader R α) (index : Nat) (items : List (Json R))
    (values : List α) :
    itemsFrom read index items = .valid values ↔
      List.Forall₂ (fun item value => read item = .valid value) items values := by
  induction items generalizing index values with
  | nil =>
    rw [itemsFrom, List.forall₂_nil_left_iff]
    exact ⟨fun same => (Checked.valid.inj same).symm, fun same => same ▸ rfl⟩
  | cons item rest ih =>
    rw [itemsFrom, List.forall₂_cons_left_iff]
    constructor
    · intro valid
      obtain ⟨g, later, first, others, rfl⟩ := valid_of_seq valid
      obtain ⟨value, read, rfl⟩ := valid_of_map first
      exact ⟨value, later, valid_of_within read, (ih _ later).1 others, rfl⟩
    · rintro ⟨value, later, read, others, rfl⟩
      rw [read, (ih _ later).2 others]
      rfl

end Schema

variable {R : Type}

theorem list_text (texts : List Text) :
    list text (.ofTexts texts : Json R) = .valid texts := by
  rw [Json.ofTexts, list, itemsFrom_valid_iff, List.forall₂_map_left_iff, List.forall₂_same]
  exact fun _ _ => rfl

theorem nullable_text (value : Option Text) :
    nullable text (.ofOption .string value : Json R) = .valid value := by
  cases value <;> rfl

variable [Numeral R]

theorem ItemScores.read_toJson (scores : ItemScores R) :
    ItemScores.read scores.toJson = .valid scores := by
  simp [ItemScores.read, toJson, record, required, Json.find?, real]

theorem FeedItem.read_toJson (item : FeedItem R) :
    FeedItem.read item.toJson =
      (fun moment => { item with createdAt := moment }) <$>
        (ItemMoment.read (.string item.createdAt.text : Json R)).within (.field "created_at") := by
  simp [FeedItem.read, toJson, record, required, defaulted, Json.find?, ItemScores.read_toJson,
    list_text, nullable_text, text, int]
  cases ItemMoment.read (.string item.createdAt.text : Json R) <;> rfl

theorem FeedItem.createdAt_only {item found : FeedItem R}
    (valid : FeedItem.read item.toJson = .valid found) :
    found = { item with createdAt := found.createdAt } := by
  rw [read_toJson] at valid
  obtain ⟨moment, _, rfl⟩ := valid_of_map valid
  rfl

theorem FeedItem.read_of_moment {item : FeedItem R}
    (moment : ItemMoment.read (.string item.createdAt.text : Json R) = .valid item.createdAt) :
    FeedItem.read item.toJson = .valid item := by
  rw [read_toJson, moment]
  rfl

theorem itemsJson_valid_iff (items found : List (FeedItem R)) :
    list FeedItem.read (itemsJson items) = .valid found ↔
      List.Forall₂ (fun item other => FeedItem.read item.toJson = .valid other) items found := by
  rw [itemsJson, list, itemsFrom_valid_iff, List.forall₂_map_left_iff]

theorem FeedResponse.read_toJson (response : FeedResponse R) :
    FeedResponse.read response.toJson =
      (fun items => { response with items := items }) <$>
        (list FeedItem.read (itemsJson response.items)).within (.field "items") := by
  simp [FeedResponse.read, toJson, record, required, defaulted, Json.find?, nullable_text, text,
    Schema.bool]
  cases list FeedItem.read (itemsJson response.items) <;> rfl

theorem SimilarResponse.read_toJson (response : SimilarResponse R) :
    SimilarResponse.read response.toJson =
      (fun items => { response with items := items }) <$>
        (list FeedItem.read (itemsJson response.items)).within (.field "items") := by
  simp [SimilarResponse.read, toJson, record, required, Json.find?, text]

theorem forall₂_of_read {items found : List (FeedItem R)}
    (valid : list FeedItem.read (itemsJson items) = .valid found) :
    List.Forall₂ (fun item other => other = { item with createdAt := other.createdAt })
      items found :=
  ((itemsJson_valid_iff items found).1 valid).imp fun _ _ => FeedItem.createdAt_only

theorem exists_of_read {items found : List (FeedItem R)}
    (valid : list FeedItem.read (itemsJson items) = .valid found) {item : FeedItem R}
    (member : item ∈ found) : ∃ other ∈ items, item = { other with createdAt := item.createdAt } := by
  have related := forall₂_of_read valid
  clear valid
  induction related with
  | nil => cases member
  | cons same _ ih =>
    rcases List.mem_cons.1 member with rfl | member
    · exact ⟨_, List.mem_cons_self, same⟩
    · obtain ⟨other, inside, same⟩ := ih member
      exact ⟨other, List.mem_cons_of_mem _ inside, same⟩

/-- A property of items that their moments do not matter for is one of the items that are read. -/
theorem FeedResponse.items_of_read {response found : FeedResponse R} {P : FeedItem R → Prop}
    (valid : FeedResponse.read response.toJson = .valid found)
    (holds : ∀ item ∈ response.items, ∀ moment, P { item with createdAt := moment }) :
    ∀ item ∈ found.items, P item := by
  rw [read_toJson] at valid
  obtain ⟨items, read, rfl⟩ := valid_of_map valid
  intro item member
  obtain ⟨other, inside, same⟩ := exists_of_read (valid_of_within read) member
  exact same ▸ holds other inside item.createdAt

theorem SimilarResponse.items_of_read {response found : SimilarResponse R}
    {P : FeedItem R → Prop} (valid : SimilarResponse.read response.toJson = .valid found)
    (holds : ∀ item ∈ response.items, ∀ moment, P { item with createdAt := moment }) :
    ∀ item ∈ found.items, P item := by
  rw [read_toJson] at valid
  obtain ⟨items, read, rfl⟩ := valid_of_map valid
  intro item member
  obtain ⟨other, inside, same⟩ := exists_of_read (valid_of_within read) member
  exact same ▸ holds other inside item.createdAt

theorem itemsJson_of_moments {items : List (FeedItem R)}
    (moments : ∀ item ∈ items,
      ItemMoment.read (.string item.createdAt.text : Json R) = .valid item.createdAt) :
    list FeedItem.read (itemsJson items) = .valid items := by
  rw [itemsJson_valid_iff, List.forall₂_same]
  exact fun item member => FeedItem.read_of_moment (moments item member)

end PersonalFeed
