import PersonalFeed.Proofs.Exposure.Loading
import PersonalFeed.Proofs.Requests

/-!
A reader and an author apart from each other. As long as the sets of blocks that a request is given
have the author, the reader is shown nothing by the author and nothing is stored that would show it,
whatever else the stores reply. Which cached values can be relied on is a parameter, so the same
contract serves while stale ones are still about.
-/

set_option autoImplicit false

namespace PersonalFeed

variable {C R : Type}

def CacheEntry.lacks [Numeral R] (id : Text) (entry : CacheEntry R) : Bool :=
  match entry.decode with
  | .error _ => false
  | .ok value =>
    match IdSet.ofJson value with
    | .error _ => false
    | .ok set => !set.toList.contains id

namespace CacheEntry

variable [Numeral R] {id : Text}

theorem mem_of_lacks {entry : CacheEntry R} (has : entry.lacks id = false) {value : Json R}
    (decoded : entry.decode = .ok value) {set : IdSet} (read : IdSet.ofJson value = .ok set) :
    id ∈ set.toList := by
  simpa [lacks, decoded, read] using has

theorem lacks_ofTexts {ids : List Text} (member : id ∈ ids) :
    (document (.ofTexts (sortedIds ids)) : CacheEntry R).lacks id = false := by
  simp [lacks, decode, IdSet.ofJson_ofTexts (nodup_sortedIds ids), IdSet.toList,
    mem_sortedIds.2 member]

end CacheEntry

/-- What an entry has to be so that it shows the reader nothing by the author: a set of blocks with
the author, or an answer that was written without the author's posts. -/
def Apart [Numeral R] (reader author : Text) : CacheKey → CacheEntry R → Prop
  | .blocks identity, entry => identity = reader → entry.lacks author = false
  | .page identity _ _ _, entry =>
    identity = reader → ∃ response : FeedResponse R, entry = .document response.toJson ∧
      ∀ item ∈ response.items, item.authorId ≠ author
  | .similar _ requester _, entry =>
    requester = reader → ∃ response : SimilarResponse R, entry = .document response.toJson ∧
      ∀ item ∈ response.items, item.authorId ≠ author
  | _, _ => True

/-- The contract of requests with stores whose trusted entries keep the two apart. If the sets of
blocks are trusted, then the store knows of the block, and what is stored keeps the two apart. -/
def apart [Numeral R] (root reader author : Text) (trusted : CacheKey → Prop) : Contract C R where
  allows
    | .query query => query.isReading = true
    | .write key value _ => ∃ name : CacheKey, name.IsProper ∧ key = name.text root ∧
        (trusted (.blocks reader) → Apart reader author name (.document value))
    | .index _ _ _ | .openIndex | .delete _ | .scan _ => False
    | .search _ _ _ | .retrieve _ | .read _ | .count _ => True
  admits
    | .query (.blocked identity), reply => trusted (.blocks reader) → identity = reader →
        ∀ ids : List Text, reply = .answer ids → author ∈ ids
    | .read key, reply => ∀ entry, reply = .found entry → ∀ name : CacheKey, name.IsProper →
        (name.text root).toString? = some key → trusted name → Apart reader author name entry
    | _, _ => True

/-- What is known around a person: if that is the reader, then every set of blocks has the author,
as far as it can be trusted. -/
def apartKnowledge (reader author identity : Text) (trusted : CacheKey → Prop) : Knowledge C where
  following _ := True
  blocked set := trusted (.blocks reader) → identity = reader → author ∈ set.toList
  author _ := True
  post _ := True

theorem author_ne_of_shows [Numeral R] {reader author : Text} {trusted : CacheKey → Prop}
    {item : FeedItem R} (differ : reader ≠ author) (trust : trusted (.blocks reader))
    (shows : (apartKnowledge (C := C) reader author reader trusted).Shows reader item) :
    item.authorId ≠ author := by
  obtain ⟨view, scored, authors, sign, asked, known, seen, -, rfl⟩ := shows
  rintro rfl
  cases (view.canSee_iff scored.post.author).1 seen with
  | own same _ => exact differ (asked.symm.trans same.symm)
  | known edges _ loaded unblocked _ _ =>
    obtain ⟨⟨set, blocked, same⟩, -⟩ := known edges loaded
    exact unblocked (same ▸ blocked trust rfl)

namespace Service

variable [Numeral R] {service : Service R} {reader author identity : Text}
  {trusted : CacheKey → Prop}

theorem apart_serves {root : Text} :
    (apart (C := C) (R := R) root reader author trusted).Serves :=
  ⟨fun _ reading => reading, fun _ _ _ => trivial, fun _ => trivial, fun _ => trivial,
    fun _ => trivial⟩

theorem apart_takes {root : Text} (key : CacheKey) (proper : key.IsProper) {value : Json R}
    (kept : trusted (.blocks reader) → Apart reader author key (.document value)) :
    (apart (C := C) root reader author trusted).Takes root key value :=
  fun _ => ⟨key, proper, rfl, kept⟩

theorem loadBlocked_apart :
    (service.loadBlocked identity : Task C R IdSet).Yields
      (apart service.root reader author trusted)
      fun set => trusted (.blocks reader) → identity = reader → author ∈ set.toList := by
  refine loadIds_yields apart_serves ?_ ?_
  · rintro value set ⟨written, entry, encoded, admitted, decoded⟩ read trust rfl
    have kept := admitted entry rfl (.blocks identity) trivial encoded trust rfl
    exact CacheEntry.mem_of_lacks kept decoded read
  · refine Task.yields_query rfl fun ids admitted => ⟨apart_takes (.blocks identity) trivial ?_, ?_⟩
    · rintro trust rfl
      exact CacheEntry.lacks_ofTexts (admitted trust rfl ids rfl)
    · rintro trust rfl
      exact mem_sortedIds.2 (admitted trust rfl ids rfl)

theorem apart_informs [Component C R] :
    (apart service.root reader author trusted).Informs service identity
      (apartKnowledge (C := C) reader author identity trusted) where
  serves := apart_serves
  takes key aside value := by
    -- Pages, lists and the two sets are not parts that are read on trust.
    have free : key.IsProper ∧ Apart reader author key (.document value) := by
      cases key with
      | follows | blocks | page | similar => exact aside.elim
      | interestVector | seen | topics | profile => exact ⟨trivial, trivial⟩
    exact apart_takes key free.1 fun _ => free.2
  following := by
    refine loadIds_yields apart_serves (fun _ _ _ _ => trivial) ?_
    exact Task.yields_query rfl fun _ _ =>
      ⟨apart_takes (.follows identity) trivial fun _ => trivial, trivial⟩
  blocked := loadBlocked_apart
  posts ids := by
    unfold fetchPosts
    split
    · exact Task.yields_pure fun _ _ => trivial
    · exact Task.yields_bind (Task.yields_query (P := fun _ => True) rfl fun _ _ => trivial)
        fun _ _ => Task.yields_ofBreakdown fun _ _ _ _ => trivial
  authors ids := by
    cases ids with
    | nil => exact Task.yields_pure fun _ _ => trivial
    | cons id rest => exact Task.yields_query rfl fun _ _ _ _ => trivial

end Service

namespace Service

variable [Score R] [Component C R] {service : Service R} {reader author : Text}
  {trusted : CacheKey → Prop} (differ : reader ≠ author)

include differ

/-- If all cached values are trusted, a feed shows the reader nothing by the author. -/
theorem rankFeedBy_apart [PlainText R] {request : FeedRequest R}
    {load : Text → Task C R (FeedContext R)}
    (gathers : ∀ identity, service.Gathers identity (load identity)) :
    (rankFeedBy load service request).Yields (apart service.root reader author trusted)
      fun response => ∀ item ∈ response.items,
        (∀ key, trusted key) → request.identity = reader → item.authorId ≠ author := by
  refine rankFeedBy_shows apart_informs gathers ?_ ?_ ?_
  · rintro item shows trust rfl
    exact author_ne_of_shows differ (trust _) shows
  · rintro key ⟨fingerprint, size, cursor, rfl⟩ proper value
      ⟨written, entry, encoded, admitted, decoded⟩ response read item member trust same
    obtain ⟨stored, rfl, kept⟩ := admitted entry rfl _ proper encoded (trust _) same
    cases decoded
    exact FeedResponse.items_of_read (P := (·.authorId ≠ author)) read
      (fun other inside _ => kept other inside) item member
  · rintro key ⟨fingerprint, size, cursor, rfl⟩ proper response shown
    refine apart_takes _ proper fun trust same => ⟨response, rfl, fun item member => ?_⟩
    exact author_ne_of_shows differ trust (same ▸ shown item member)

theorem similarPosts_apart {request : SimilarRequest R} :
    (service.similarPosts (C := C) request).Yields (apart service.root reader author trusted)
      fun response => ∀ item ∈ response.items,
        (∀ key, trusted key) → request.requester = reader → item.authorId ≠ author := by
  refine similarPosts_shows apart_informs ?_ ?_ ?_
  · rintro item shows trust rfl
    exact author_ne_of_shows differ (trust _) shows
  · rintro key ⟨post, limit, rfl⟩ proper value
      ⟨written, entry, encoded, admitted, decoded⟩ response read item member trust same
    obtain ⟨stored, rfl, kept⟩ := admitted entry rfl _ proper encoded (trust _) same
    cases decoded
    exact SimilarResponse.items_of_read (P := (·.authorId ≠ author)) read
      (fun other inside _ => kept other inside) item member
  · rintro key ⟨post, limit, rfl⟩ proper response shown
    refine apart_takes _ proper fun trust same => ⟨response, rfl, fun item member => ?_⟩
    exact author_ne_of_shows differ trust (same ▸ shown item member)

theorem answer_apart [PlainText R] (service : Service R) (request : Request R)
    (trusted : CacheKey → Prop) :
    (service.answer request : Task C R (Answer R)).Yields (apart service.root reader author trusted)
      fun answer => ∀ item ∈ answer.items,
        (∀ key, trusted key) → request.requester = reader → item.authorId ≠ author := by
  cases request with
  | feed request =>
    exact Task.yields_bind (rankFeedBy_apart differ (gathers_loadContext service))
      fun _ kept => Task.yields_pure kept
  | similar request =>
    exact Task.yields_bind (similarPosts_apart differ) fun _ kept => Task.yields_pure kept

end Service

end PersonalFeed
