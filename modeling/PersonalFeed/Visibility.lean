import PersonalFeed.Post

/-!
Who may see whose posts. A block in either direction hides, then the own posts are visible, then
those of public authors, then those of private authors that the reader follows. Without complete
knowledge of the blocks and authors nothing but the own posts is visible.
-/

set_option autoImplicit false

namespace PersonalFeed

/-- What is known about the people around a reader. -/
structure Edges where
  following : List Text
  /-- Everyone on the other side of a block with the reader. -/
  blocked : List Text
  authors : List Author

/-- A reader with the edges around, `none` when some of them could not be loaded. -/
structure Viewpoint where
  requester : Text
  edges : Option Edges

def Edges.author? (edges : Edges) (id : Text) : Option Author :=
  Author.find? edges.authors id

namespace Viewpoint

def canSee (view : Viewpoint) (author : Text) : Bool :=
  match view.edges with
  | none => author = view.requester
  | some edges =>
    if edges.blocked.contains author then false
    else if author = view.requester then true
    else
      match edges.author? author with
      | none => false
      | some profile => !profile.isPrivate || edges.following.contains author

variable {C : Type}

def visible (view : Viewpoint) (posts : List (Post C)) : List (Post C) :=
  posts.filter fun post => view.canSee post.author

/-- The reasons for a post of an author to be shown. -/
inductive MaySee (view : Viewpoint) (author : Text) : Prop where
  | own (same : author = view.requester)
      (unblocked : ∀ edges, view.edges = some edges → author ∉ edges.blocked)
  | known (edges : Edges) (profile : Author) (loaded : view.edges = some edges)
      (unblocked : author ∉ edges.blocked) (listed : edges.author? author = some profile)
      (open_or_followed : profile.isPrivate = false ∨ author ∈ edges.following)

theorem canSee_iff (view : Viewpoint) (author : Text) :
    view.canSee author = true ↔ MaySee view author := by
  obtain ⟨requester, edges⟩ := view
  cases edges with
  | none =>
    constructor
    · intro shown
      exact .own (by simpa [canSee] using shown) (by simp)
    · intro reason
      cases reason with
      | own same _ => simpa [canSee] using same
      | known edges _ loaded => simp at loaded
  | some edges =>
    constructor
    · intro shown
      by_cases hidden : author ∈ edges.blocked
      · simp [canSee, hidden] at shown
      · by_cases same : author = requester
        · exact .own same (by simpa using hidden)
        · cases listed : edges.author? author with
          | none => simp [canSee, hidden, same, listed] at shown
          | some profile =>
            refine .known edges profile rfl hidden listed ?_
            simpa [canSee, hidden, same, listed] using shown
    · intro reason
      cases reason with
      | own same unblocked =>
        change author = requester at same
        subst same
        simp [canSee, unblocked edges rfl]
      | known other profile loaded unblocked listed allowed =>
        cases loaded
        by_cases same : author = requester
        · subst same
          simp [canSee, unblocked]
        · simpa [canSee, unblocked, same, listed] using allowed

end Viewpoint

end PersonalFeed
