import PersonalFeed.Proofs.Pages.Arrival

/-!
Tables with keys. Where there is one row for an id at most, the authors that are loaded for some
posts are those of the table, and a viewpoint that is put together from loaded edges and authors
shows its reader exactly what the tables permit.
-/

set_option autoImplicit false

namespace PersonalFeed

variable {R : Type}

/-- Users and posts have keys: there is one row for an id at most. -/
structure Tables.IsKeyed (tables : Tables R) : Prop where
  users : (tables.users.map UserRow.id).Nodup
  posts : (tables.posts.map PostRow.id).Nodup

section

variable {tables : Tables R} {reader author : Text}

theorem Tables.blocks_of_blocked (member : author ∈ tables.blocked reader) :
    author ≠ reader ∧ ((reader, author) ∈ tables.blocks ∨ (author, reader) ∈ tables.blocks) := by
  obtain ⟨far, other⟩ := List.mem_filter.1 (List.mem_eraseDups.1 member)
  obtain ⟨edge, near, side⟩ := List.mem_map.1 far
  obtain ⟨stored, touches⟩ := List.mem_filter.1 near
  refine ⟨by simpa using other, ?_⟩
  split at side
  · rename_i first
    exact .inl (first ▸ side ▸ stored)
  · rename_i first
    have second : edge.2 = reader := by simpa [first] using touches
    exact .inr (side ▸ second ▸ stored)

theorem Tables.mem_following (followed : (reader, author) ∈ tables.follows) :
    author ∈ tables.following reader :=
  List.mem_eraseDups.2 (List.mem_map.2 ⟨_, List.mem_filter.2 ⟨followed, by simp⟩, rfl⟩)

variable {C : Type} {posts : List (Post C)}

theorem Service.find?_authorsOf (keyed : tables.IsKeyed) (member : author ∈ posts.map (·.author)) :
    Author.find? (authorsOf tables posts) author =
      (tables.user? author).map UserRow.author := by
  have ids : ((authorsOf tables posts).reverse.map Author.id).Nodup := by
    rw [List.map_reverse, List.nodup_reverse, authorsOf, List.map_map]
    exact (List.filter_sublist.map UserRow.id).nodup keyed.users
  -- With keys on both sides, to be found under an id is to be in the list and to have this id.
  refine Option.ext fun found => ?_
  rw [Author.find?, find?_key_iff ids, List.mem_reverse, authorsOf, Option.map_eq_some_iff]
  constructor
  · rintro ⟨there, named⟩
    obtain ⟨user, inside, rfl⟩ := List.mem_map.1 there
    exact ⟨user, (find?_key_iff keyed.users).2 ⟨(List.mem_filter.1 inside).1, named⟩, rfl⟩
  · rintro ⟨user, stored, rfl⟩
    obtain ⟨inside, named⟩ := (find?_key_iff keyed.users).1 stored
    refine ⟨List.mem_map_of_mem (List.mem_filter.2 ⟨inside, ?_⟩), named⟩
    rw [named]
    exact List.contains_iff_mem.2 member

/-- With the edges of the tables and the authors of some posts, a reader sees the posts that the
tables permit. -/
theorem Service.canSee_iff_permits (keyed : tables.IsKeyed)
    (member : author ∈ posts.map (·.author)) :
    Viewpoint.canSee ⟨reader, some ⟨sortedIds (tables.following reader),
      sortedIds (tables.blocked reader), authorsOf tables posts⟩⟩ author = true ↔
      tables.Permits reader author := by
  constructor
  · refine Viewpoint.permits_of_canSee fun edges same => ?_
    cases same
    refine ⟨fun id => mem_sortedIds.2, fun id => mem_sortedIds.1, fun author listed => ?_⟩
    obtain ⟨user, inside, rfl⟩ := List.mem_map.1 listed
    exact ⟨user, (List.mem_filter.1 inside).1, rfl⟩
  · intro permitted
    rw [Viewpoint.canSee_iff]
    rcases permitted with same | ⟨ours, theirs, user, stored, named, allowed⟩
    · refine .own same fun edges loaded blocked => ?_
      cases loaded
      exact (Tables.blocks_of_blocked (mem_sortedIds.1 blocked)).1 same
    · refine .known _ user.author rfl (fun blocked => ?_) ?_ (allowed.imp_right fun followed => ?_)
      · exact (Tables.blocks_of_blocked (mem_sortedIds.1 blocked)).2.elim ours theirs
      -- The author's row is the first one of that id, since the table is keyed.
      · have found : tables.user? author = some user :=
          (find?_key_iff keyed.users).2 ⟨stored, named⟩
        exact (find?_authorsOf keyed member).trans (by rw [found]; rfl)
      · exact mem_sortedIds.2 (Tables.mem_following followed)

theorem Service.canSee_source_iff (keyed : tables.IsKeyed) (post : Post C) :
    Viewpoint.canSee ⟨reader, some ⟨sortedIds (tables.following reader),
      sortedIds (tables.blocked reader), authorsOf tables [post]⟩⟩ post.author = true ↔
      tables.Permits reader post.author :=
  canSee_iff_permits keyed List.mem_cons_self

end

end PersonalFeed
