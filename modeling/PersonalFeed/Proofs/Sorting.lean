import Mathlib.Data.List.Perm.Basic
import PersonalFeed.Sorting.Adaptive

/-!
Sorting by runs loses and doubles nothing, whatever the relation answers: each step takes items
apart or puts them together, and what is put together is a permutation of the list.
-/

set_option autoImplicit false

namespace PersonalFeed.Sorting

variable {α : Type}

theorem halve_le (direction : Direction) (isFront : α → Bool) (row : List α) {low high : Nat}
    (le : low ≤ high) : halve direction isFront row low high ≤ high := by
  fun_induction halve direction isFront row low high with
  | case1 low high inside middle _ ih => exact ih (direction.middle_lt inside)
  | case2 low high inside middle _ ih =>
    exact Nat.le_trans (ih (direction.le_middle low high)) (Nat.le_of_lt (direction.middle_lt inside))
  | case3 => exact le

theorem takeRun_append (goesOn : α → α → Bool) (last : α) (items : List α) :
    (takeRun goesOn last items).1 ++ (takeRun goesOn last items).2 = items := by
  induction items generalizing last with
  | nil => rfl
  | cons item rest ih =>
    rw [takeRun]
    split
    · exact congrArg (item :: ·) (ih item)
    · rfl

theorem firstRun_perm (before : α → α → Bool) (items : List α) :
    ((firstRun before items).1 ++ (firstRun before items).2).Perm items := by
  match items with
  | [] => exact .refl _
  | [item] => exact .refl _
  | first :: second :: rest =>
    rw [firstRun]
    split
    · have whole := takeRun_append (fun last item => before item last) second rest
      refine ((List.reverse_perm _).append_right _).trans ?_
      rw [List.cons_append, List.cons_append, whole]
    · have whole := takeRun_append (fun last item => !before item last) second rest
      rw [List.cons_append, List.cons_append, whole]

theorem insert_perm (before : α → α → Bool) (row : List α) (item : α) :
    (insert before row item).Perm (item :: row) :=
  List.perm_insertIdx _ _ (halve_le _ _ _ (Nat.zero_le _))

theorem foldl_insert_perm (before : α → α → Bool) (items row : List α) :
    (items.foldl (insert before) row).Perm (row ++ items) := by
  induction items generalizing row with
  | nil => rw [List.append_nil, List.foldl_nil]
  | cons item rest ih =>
    refine (ih _).trans (((insert_perm before row item).append_right rest).trans ?_)
    exact List.perm_middle.symm

theorem nextRun_perm (before : α → α → Bool) (least : Nat) (items : List α) :
    ((nextRun before least items).1 ++ (nextRun before least items).2).Perm items := by
  have whole := firstRun_perm before items
  unfold nextRun
  generalize firstRun before items = taken at whole ⊢
  refine ((foldl_insert_perm before _ _).append_right _).trans ?_
  rw [List.append_assoc, List.take_append_drop]
  exact whole

namespace Merge

def content (m : Merge α) : List α := m.placed ++ m.first ++ m.second

theorem items_perm (m : Merge α) : m.items.Perm m.content := by
  rw [items, content, List.append_assoc, List.append_assoc]
  exact (List.reverse_perm _).append List.perm_append_comm

theorem content_moveFirst (count : Nat) (m : Merge α) :
    (m.moveFirst count).content.Perm m.content := by
  have whole := List.take_append_drop count m.first
  simp only [content, moveFirst]
  refine List.Perm.append_right _ ?_
  conv_rhs => rw [← whole, ← List.append_assoc]
  refine List.Perm.append_right _ ?_
  exact ((List.reverse_perm _).append_right _).trans List.perm_append_comm

theorem content_moveSecond (count : Nat) (m : Merge α) :
    (m.moveSecond count).content.Perm m.content := by
  have whole := List.take_append_drop count m.second
  simp only [content, moveSecond]
  conv_rhs => rw [← whole, ← List.append_assoc]
  refine List.Perm.append_right _ ?_
  rw [List.append_assoc]
  exact ((List.reverse_perm _).append_right _).trans List.perm_append_comm

theorem content_oneByOne (leads : α → α → Bool) (patience firstWins secondWins : Nat)
    (m : Merge α) : (m.oneByOne leads patience firstWins secondWins).content.Perm m.content := by
  fun_induction oneByOne leads patience firstWins secondWins m with
  | case1 | case6 => exact .refl _
  | case2 => exact content_moveSecond ..
  | case3 _ _ _ _ _ _ _ _ _ _ _ _ _ ih => exact ih.trans (content_moveSecond ..)
  | case4 => exact content_moveFirst ..
  | case5 _ _ _ _ _ _ _ _ _ _ _ _ _ ih => exact ih.trans (content_moveFirst ..)

theorem content_gallopFirst (direction : Direction) (leads : α → α → Bool) (m : Merge α) :
    (m.gallopFirst direction leads).2.content.Perm m.content := by
  unfold gallopFirst
  split
  · exact .refl _
  · dsimp only
    split
    · exact content_moveFirst ..
    · exact (content_moveSecond ..).trans (content_moveFirst ..)

theorem content_gallopSecond (direction : Direction) (leads : α → α → Bool) (m : Merge α) :
    (m.gallopSecond direction leads).2.content.Perm m.content := by
  unfold gallopSecond
  split
  · exact .refl _
  · dsimp only
    split
    · exact content_moveSecond ..
    · exact (content_moveFirst ..).trans (content_moveSecond ..)

theorem content_gallopBoth (direction : Direction) (leads : α → α → Bool) (m : Merge α) :
    (m.gallopBoth direction leads).2.content.Perm m.content := by
  cases direction with
  | forward =>
    rw [gallopBoth]
    dsimp only
    split
    · exact content_gallopFirst ..
    · exact (content_gallopSecond ..).trans (content_gallopFirst ..)
  | backward =>
    rw [gallopBoth]
    dsimp only
    split
    · exact content_gallopSecond ..
    · exact (content_gallopFirst ..).trans (content_gallopSecond ..)

theorem content_gallops (direction : Direction) (leads : α → α → Bool) (patience : Nat)
    (m : Merge α) : (m.gallops direction leads patience).2.content.Perm m.content := by
  fun_induction gallops direction leads patience m with
  | case1 => exact content_gallopBoth ..
  | case2 _ _ _ _ _ _ ih => exact ih.trans (content_gallopBoth ..)
  | case3 => exact content_gallopBoth ..

theorem content_rounds (direction : Direction) (leads : α → α → Bool) (patience : Nat)
    (m : Merge α) : (m.rounds direction leads patience).2.content.Perm m.content := by
  fun_induction rounds direction leads patience m with
  | case1 => exact content_oneByOne ..
  | case2 => exact (content_gallops ..).trans (content_oneByOne ..)
  | case3 _ _ _ _ _ _ ih =>
    exact ih.trans ((content_gallops ..).trans (content_oneByOne ..))

/-- A whole merge of two rows, the head of the second of which is placed first. -/
theorem items_rounds (direction : Direction) (leads : α → α → Bool) (patience : Nat)
    (first second : List α) :
    (((⟨[], first, second⟩ : Merge α).moveSecond 1).rounds direction leads patience).2.items.Perm
      (first ++ second) :=
  (items_perm _).trans ((content_rounds ..).trans (content_moveSecond ..))

end Merge

theorem mergeTowards_perm (direction : Direction) (before : α → α → Bool) (patience : Nat)
    (run next : List α) : (mergeTowards direction before patience run next).2.Perm (run ++ next) := by
  cases direction with
  | forward => exact Merge.items_rounds ..
  | backward =>
    refine (List.reverse_perm _).trans ((Merge.items_rounds ..).trans ?_)
    rw [← List.reverse_append]
    exact List.reverse_perm _

theorem mergeRuns_perm (before : α → α → Bool) (patience : Nat) (run next : List α) :
    (mergeRuns before patience run next).2.Perm (run ++ next) := by
  unfold mergeRuns
  cases next with
  | nil =>
    rw [List.append_nil]
  | cons head tail =>
    simp only [List.splitAt_eq]
    generalize gallop .forward (fun item => !before head item) run = settled
    split
    · rename_i bare
      -- All of the run settles before the head of the next one, so nothing is left to merge.
      rw [List.getLast?_eq_none_iff] at bare
      conv_rhs => rw [← List.take_append_drop settled run, bare, List.append_nil]
    · rename_i last _
      generalize (head :: tail).length -
        gallop .backward (fun item => !before item last) (head :: tail).reverse = kept
      have runs := List.take_append_drop settled run
      have nexts := List.take_append_drop kept (head :: tail)
      split
      · rename_i bare
        rw [List.isEmpty_iff] at bare
        rw [bare, List.nil_append] at nexts
        rw [runs, nexts]
      · refine ((mergeTowards_perm _ _ _ _ _).append_left _ |>.append_right _).trans ?_
        rw [← List.append_assoc, runs, List.append_assoc, nexts]

namespace Pending

def content (pending : List (Pending α)) : List α := (pending.map items).flatten

theorem merge_perm (before : α → α → Bool) (patience : Nat) (run next : Pending α) :
    (run.merge before patience next).2.items.Perm (run.items ++ next.items) :=
  mergeRuns_perm ..

end Pending

theorem settle_perm (before : α → α → Bool) (power patience : Nat) (pending : List (Pending α)) :
    (Pending.content (settle before power patience pending).2).Perm (Pending.content pending) := by
  fun_induction settle before power patience pending with
  | case1 patience top below rest _ merged ih =>
    refine ih.trans ?_
    simp only [Pending.content, List.map_cons, List.flatten_cons, ← List.append_assoc]
    exact ((Pending.merge_perm ..).trans List.perm_append_comm).append_right _
  | case2 | case3 | case4 => exact .refl _

theorem settleAll_perm (before : α → α → Bool) (patience : Nat) (pending : List (Pending α)) :
    (settleAll before patience pending).Perm (Pending.content pending) := by
  fun_induction settleAll before patience pending with
  | case1 => exact .refl _
  | case2 patience only => simp [Pending.content]
  | case3 patience top below =>
    refine (Pending.merge_perm ..).trans (List.perm_append_comm.trans ?_)
    simp [Pending.content]
  | case4 patience top below third rest _ merged ih =>
    refine ih.trans ?_
    simp only [Pending.content, List.map_cons, List.flatten_cons]
    refine List.Perm.append_left _ ?_
    rw [← List.append_assoc]
    exact ((Pending.merge_perm ..).trans List.perm_append_comm).append_right _
  | case5 patience top below third rest _ merged ih =>
    refine ih.trans ?_
    simp only [Pending.content, List.map_cons, List.flatten_cons, ← List.append_assoc]
    refine (((Pending.merge_perm ..).trans List.perm_append_comm).append_right _).append_right _

theorem takeRuns_perm (before : α → α → Bool) (length start patience : Nat)
    (pending : List (Pending α)) (items : List α) :
    (takeRuns before length start patience pending items).Perm (Pending.content pending ++ items) := by
  fun_induction takeRuns before length start patience pending items with
  | case1 start patience pending =>
    rw [List.append_nil]
    exact settleAll_perm ..
  | case2 start patience pending item rest next count patience' pending' settled ih =>
    have before' : (Pending.content pending').Perm (Pending.content pending) := by
      cases pending with
      | nil =>
        cases settled
        exact .refl _
      | cons top below =>
        have latest : (settle before (top.boundaryPower count length) patience
          (top :: below)).2 = pending' := congrArg Prod.snd settled
        rw [← latest]
        exact settle_perm ..
    -- The next run is put on those that are pending, and what these hold is not changed by settling
    -- them.
    refine ih.trans ?_
    calc ((next.1 ++ Pending.content pending') ++ next.2).Perm
          ((Pending.content pending' ++ next.1) ++ next.2) := List.perm_append_comm.append_right _
      _ = Pending.content pending' ++ (next.1 ++ next.2) := List.append_assoc ..
      List.Perm _ (Pending.content pending ++ (item :: rest)) := before'.append (nextRun_perm ..)

theorem sort_perm (before : α → α → Bool) (items : List α) : (sort before items).Perm items :=
  takeRuns_perm before items.length 0 worthwhile [] items

theorem sortStrays_perm (isStray : α → Bool) (before : α → α → Bool) (items : List α) :
    (sortStrays isStray before items).Perm items := by
  rw [sortStrays]
  split
  · exact sort_perm before items
  · exact List.mergeSort_perm items _

end PersonalFeed.Sorting
