import PersonalFeed.Proofs.Cache.Decoding
import PersonalFeed.Proofs.Json.Written
import PersonalFeed.Service.Similar

/-!
Values whose text is read back: ids and texts of whole characters, marks under different ids, and
numbers that are read as they are written. The document that the cache keeps of such a value can be
written.
-/

set_option autoImplicit false

namespace PersonalFeed

open Json (IsWritable IsWritableNumber depthLimit digitLimit)

variable {R : Type} [Numeral R]

def IdSet.IsWritable (set : IdSet) : Prop := ∀ id ∈ set.toList, id.isWhole = true

def SeenMap.IsWritable (seen : SeenMap) : Prop :=
  (seen.map Prod.fst).Nodup ∧ ∀ mark ∈ seen, mark.1.isWhole = true

def Profile.IsWritable (profile : Profile R) : Prop :=
  profile.weights.IsWritable (depthLimit - 1) ∧
    ∀ keyword ∈ profile.muted, keyword.IsWritable (depthLimit - 2)

def ItemScores.numbers (scores : ItemScores R) : List R :=
  [scores.similarity, scores.engagement, scores.temporal, scores.diversity, scores.privacy,
    scores.seen, scores.final]

structure FeedItem.IsWritable (item : FeedItem R) : Prop where
  texts : ∀ text ∈ [item.postId, item.authorId, item.contentType] ++ item.tags,
    text.isWhole = true
  options : ∀ text, some text ∈ [item.username, item.displayName, item.avatarUrl, item.content,
    item.mediaUrl, item.mediaType] → text.isWhole = true
  saves : (Nat.toDigits 10 item.saves.natAbs).length ≤ digitLimit
  comments : (Nat.toDigits 10 item.comments.natAbs).length ≤ digitLimit
  scores : ∀ x ∈ item.scores.numbers, IsWritableNumber x

structure FeedResponse.IsWritable (response : FeedResponse R) : Prop where
  identity : response.identityId.isWhole = true
  next : ∀ cursor, response.next = some cursor → cursor.isWhole = true
  items : ∀ item ∈ response.items, item.IsWritable

structure SimilarResponse.IsWritable (response : SimilarResponse R) : Prop where
  post : response.postId.isWhole = true
  items : ∀ item ∈ response.items, item.IsWritable

theorem isWritable_ofTexts {texts : List Text} (whole : ∀ text ∈ texts, text.isWhole = true)
    (depth : Nat) : (Json.ofTexts texts : Json R).IsWritable (depth + 1) := by
  refine .array fun item member => ?_
  obtain ⟨text, inside, rfl⟩ := List.mem_map.1 member
  exact .string depth (whole text inside)

theorem isWritable_ofOption {text : Option Text} (whole : ∀ s, text = some s → s.isWhole = true)
    (depth : Nat) : (Json.ofOption .string text : Json R).IsWritable depth := by
  cases text with
  | none => exact .null depth
  | some s => exact .string depth (whole s rfl)

theorem SeenMap.isWritable_toJson {marks : List (Text × Timestamp)}
    (writable : (ofMarks marks).IsWritable) : (toJson marks : Json R).IsWritable depthLimit := by
  obtain ⟨distinct, whole⟩ := writable
  refine .object ?_ ?_ ?_
  · rw [ofMarks, List.map_map] at distinct
    rw [List.map_map]
    exact distinct
  · intro field member
    obtain ⟨mark, inside, rfl⟩ := List.mem_map.1 member
    exact whole _ (List.mem_map_of_mem inside)
  · intro field member
    obtain ⟨mark, inside, rfl⟩ := List.mem_map.1 member
    exact .string _ (Text.isWhole_ofString _)

theorem Profile.isWritable_toJson {profile : Option (Profile R)}
    (writable : ∀ given, profile = some given → given.IsWritable) :
    (toJson profile).IsWritable depthLimit := by
  cases profile with
  | none => exact .object (by simp) (by simp [Text.isWhole_ofString]) (by simpa using .bool _ false)
  | some given =>
    obtain ⟨weights, muted⟩ := writable given rfl
    refine .object (by simp) (by simp [Text.isWhole_ofString]) ?_
    simp only [List.forall_mem_cons]
    exact ⟨.bool _ true, weights, .array muted, fun _ member => absurd member List.not_mem_nil⟩

theorem ItemScores.isWritable_toJson {scores : ItemScores R}
    (writable : ∀ x ∈ scores.numbers, IsWritableNumber x) (depth : Nat) :
    scores.toJson.IsWritable (depth + 1) := by
  simp only [numbers, List.forall_mem_cons] at writable
  obtain ⟨similarity, engagement, temporal, diversity, privacy, seen, final, -⟩ := writable
  refine .object (by simp) (by simp [Text.isWhole_ofString]) ?_
  simp only [List.forall_mem_cons]
  exact ⟨.real _ similarity, .real _ engagement, .real _ temporal, .real _ diversity,
    .real _ privacy, .real _ seen, .real _ final, fun _ member => absurd member List.not_mem_nil⟩

theorem FeedItem.isWritable_toJson {item : FeedItem R} (writable : item.IsWritable) (depth : Nat) :
    item.toJson.IsWritable (depth + 2) := by
  obtain ⟨texts, options, saves, comments, scores⟩ := writable
  simp only [List.cons_append, List.nil_append, List.forall_mem_cons] at texts
  obtain ⟨post, author, kind, tags⟩ := texts
  have option {text : Option Text} (listed : text ∈ [item.username, item.displayName,
      item.avatarUrl, item.content, item.mediaUrl, item.mediaType]) :
      (Json.ofOption .string text : Json R).IsWritable (depth + 1) :=
    isWritable_ofOption (fun s same => options s (same ▸ listed)) _
  refine .object (by simp) (by simp [Text.isWhole_ofString]) ?_
  simp only [List.forall_mem_cons]
  exact ⟨.string _ post, .string _ author, option (by simp), option (by simp), option (by simp),
    option (by simp), isWritable_ofTexts tags _, .string _ kind, option (by simp), option (by simp),
    .int _ saves, .int _ comments, .string _ (Text.isWhole_ofString _),
    ItemScores.isWritable_toJson scores _, fun _ member => absurd member List.not_mem_nil⟩

theorem isWritable_itemsJson {items : List (FeedItem R)}
    (writable : ∀ item ∈ items, item.IsWritable) (depth : Nat) :
    (itemsJson items).IsWritable (depth + 3) := by
  refine .array fun value member => ?_
  obtain ⟨item, inside, rfl⟩ := List.mem_map.1 member
  exact FeedItem.isWritable_toJson (writable item inside) _

theorem FeedResponse.isWritable_toJson {response : FeedResponse R}
    (writable : response.IsWritable) : response.toJson.IsWritable depthLimit := by
  refine .object (by simp) (by simp [Text.isWhole_ofString]) ?_
  simp only [List.forall_mem_cons]
  exact ⟨.string _ writable.identity, isWritable_itemsJson writable.items _,
    isWritable_ofOption writable.next _, .bool _ _, fun _ member => absurd member List.not_mem_nil⟩

theorem SimilarResponse.isWritable_toJson {response : SimilarResponse R}
    (writable : response.IsWritable) : response.toJson.IsWritable depthLimit := by
  refine .object (by simp) (by simp [Text.isWhole_ofString]) ?_
  simp only [List.forall_mem_cons]
  exact ⟨.string _ writable.post, isWritable_itemsJson writable.items _,
    fun _ member => absurd member List.not_mem_nil⟩

end PersonalFeed
