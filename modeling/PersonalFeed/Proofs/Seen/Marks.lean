import Mathlib.Data.List.Nodup
import PersonalFeed.Feed.Candidates
import PersonalFeed.Store.Tables

/-!
Marks of posts that were shown. A mark counts up to the last microsecond of a window before a moment,
and what a post is worth then is settled by any marks that are true and lack none of the window: by
what the store finds from an earlier start on, and by what purges of still earlier marks leave.
-/

set_option autoImplicit false

namespace PersonalFeed

open Scalar

variable {C R : Type}

def Config.windowStart (config : Config R) (now : Timestamp) : Int :=
  now.micros - config.ranking.seenRetentionDays * Timestamp.microsPerDay

namespace Timestamp

theorem micros_withoutZone (t : Timestamp) : t.withoutZone.micros = t.micros + t.offset := by
  simp only [withoutZone, ofClock, clock]
  omega

end Timestamp

/-- A window before an earlier moment starts before the window of a later one. -/
theorem early_of_retentionStart {config : Config R} {now later since : Timestamp}
    (universal : now.offset = 0) (before : now.micros ≤ later.micros)
    (started : retentionStart now config.ranking.seenRetentionDays = .ok since) :
    since.withoutZone.micros ≤ config.windowStart later := by
  unfold retentionStart at started
  split at started
  · rename_i moment found
    cases started
    unfold Timestamp.daysBefore? at found
    dsimp only at found
    split at found
    · cases found
      rw [Timestamp.micros_withoutZone, Config.windowStart]
      dsimp only
      omega
    · cases found
  · cases started

namespace Tables

def mark? (tables : Tables R) (reader post : Text) : Option Mark :=
  tables.seen.find? fun mark => mark.key = (reader, post)

/-- The share of its score that a post keeps for a reader at a moment, by the marks of the tables. -/
def seenScore [Exponential R] (tables : Tables R) (days : Int) (now : Timestamp)
    (reader post : Text) : R :=
  match tables.mark? reader post with
  | none => one
  | some mark =>
    if now.micros - mark.moment.micros ≤ days * Timestamp.microsPerDay then
      recovery (mark.moment.daysUntil now)
    else one

/-- Marks of a reader that are in the tables, and all of them from a start on. -/
structure Tells (tables : Tables R) (reader : Text) (start : Int)
    (marks : List (Text × Timestamp)) : Prop where
  stored : ∀ entry ∈ marks, ⟨reader, entry.1, entry.2⟩ ∈ tables.seen
  full : ∀ mark ∈ tables.seen, mark.user = reader → start ≤ mark.moment.micros →
    (mark.post, mark.moment) ∈ marks

/-- Later tables have lost no marks but some from before a start. -/
structure Retains (tables after : Tables R) (start : Int) : Prop where
  stored : ∀ mark ∈ after.seen, mark ∈ tables.seen
  kept : ∀ mark ∈ tables.seen, start ≤ mark.moment.micros → mark ∈ after.seen

variable {tables after : Tables R} {reader : Text} {start : Int}

theorem retains_self (tables : Tables R) (start : Int) : tables.Retains tables start :=
  ⟨fun _ member => member, fun _ member _ => member⟩

/-- A look-up from the start or earlier on tells the marks that were there before any purge. -/
theorem tells_seenSince (retains : tables.Retains after start) {since : Timestamp}
    (early : since.withoutZone.micros ≤ start) :
    tables.Tells reader start (after.seenSince reader since) where
  stored := by
    intro entry member
    obtain ⟨mark, inside, rfl⟩ := List.mem_map.1 member
    obtain ⟨present, looked⟩ := List.mem_filter.1 inside
    have own : mark.user = reader := by simpa using (Bool.and_eq_true_iff.1 looked).1
    have same : mark = ⟨reader, mark.post, mark.moment⟩ := own ▸ rfl
    exact same ▸ retains.stored mark present
  full := by
    intro mark member own recent
    refine List.mem_map.2 ⟨mark, List.mem_filter.2 ⟨retains.kept mark member recent, ?_⟩, rfl⟩
    exact Bool.and_eq_true_iff.2 ⟨decide_eq_true own, decide_eq_true (Int.le_trans early recent)⟩

theorem retains_purgeSeen (retains : tables.Retains after start) {before : Timestamp}
    (early : before.withoutZone.micros ≤ start) :
    tables.Retains (after.purgeSeen before).2 start where
  stored mark member := retains.stored mark (List.mem_filter.1 member).1
  kept mark member recent := by
    refine List.mem_filter.2 ⟨retains.kept mark member recent, ?_⟩
    simpa using Int.le_trans early recent

theorem of_mark? {post : Text} {mark : Mark} (found : tables.mark? reader post = some mark) :
    mark ∈ tables.seen ∧ mark.user = reader ∧ mark.post = post := by
  have checked := List.find?_some found
  exact ⟨List.mem_of_find?_eq_some found, Prod.ext_iff.1 (of_decide_eq_true checked)⟩

theorem mark?_of_mem (distinct : (tables.seen.map Mark.key).Nodup) {mark : Mark}
    (member : mark ∈ tables.seen) : tables.mark? mark.user mark.post = some mark := by
  cases found : tables.mark? mark.user mark.post with
  | none =>
    have missing := List.find?_eq_none.1 found mark member
    exact absurd (decide_eq_true rfl) missing
  | some other =>
    obtain ⟨inside, own, named⟩ := of_mark? found
    rw [List.inj_on_of_nodup_map distinct inside member (Prod.ext own named)]

theorem seenMultiplier_of_tells [Score R] (distinct : (tables.seen.map Mark.key).Nodup)
    {config : Config R} {now : Timestamp}
    {post : Text} (exact : ∀ mark, tables.mark? reader post = some mark →
      lt (ofInt config.ranking.seenRetentionDays) (mark.moment.daysUntil now : R) =
        decide (config.ranking.seenRetentionDays * Timestamp.microsPerDay <
          now.micros - mark.moment.micros))
    {marks : List (Text × Timestamp)}
    (tells : tables.Tells reader (config.windowStart now) marks) :
    (daysSinceSeen config now (.ofMarks marks) post).map seenMultiplier =
      .ok (tables.seenScore config.ranking.seenRetentionDays now reader post) := by
  have told {moment : Timestamp} (entry : (post, moment) ∈ marks) :
      tables.mark? reader post = some ⟨reader, post, moment⟩ :=
    mark?_of_mem distinct (tells.stored _ entry)
  unfold daysSinceSeen SeenMap.find? SeenMap.ofMarks seenScore
  rw [List.find?_map]
  cases first : marks.find? ((fun mark => decide (mark.1 = post)) ∘
      fun entry => (entry.1, some entry.2)) with
  | some entry =>
    have named : entry.1 = post := by simpa using List.find?_some first
    obtain ⟨_, moment⟩ := entry
    cases named
    have known := told (List.mem_of_find?_eq_some first)
    have dates := exact _ known
    dsimp only at dates
    rw [known]
    dsimp only [Option.map_some]
    rw [dates]
    by_cases old : config.ranking.seenRetentionDays * Timestamp.microsPerDay <
        now.micros - moment.micros
    · rw [if_pos (decide_eq_true old), if_neg (Int.not_le.2 old)]
      rfl
    · rw [if_neg (by simpa using old), if_pos (Int.not_lt.1 old)]
      rfl
  | none =>
    -- A mark that is not told is from before the window, if there is one at all.
    dsimp only [Option.map_none]
    cases there : tables.mark? reader post with
    | none => rfl
    | some mark =>
      obtain ⟨member, own, named⟩ := of_mark? there
      have old : ¬ now.micros - mark.moment.micros ≤
          config.ranking.seenRetentionDays * Timestamp.microsPerDay := by
        intro recent
        have inside : config.windowStart now ≤ mark.moment.micros := by
          unfold Config.windowStart
          omega
        have entry := tells.full mark member own inside
        have missing := List.find?_eq_none.1 first _ entry
        exact missing (decide_eq_true named)
      dsimp only
      rw [if_neg old]
      rfl

end Tables

end PersonalFeed
