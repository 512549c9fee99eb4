import PersonalFeed.Proofs.Text
import PersonalFeed.Text.Lowercase

/-!
Lower case of the parts of a text. Only the capital sigma looks at its neighbours, and it looks no
further than the next character that counts for case. So a text can be lowered in parts, cut at a
character that counts for case and has none. And no character beyond ASCII is lowered to a sign of
ASCII that comes before the letter `g`, such as a hexadecimal digit.
-/

set_option autoImplicit false

namespace PersonalFeed

theorem Code.le_number_ofNumber {bound n : Nat} (above : bound ≤ n) (valid : n < 0x110000) :
    bound ≤ (ofNumber n).number := by
  unfold ofNumber
  split
  · rename_i inside
    simpa [number, Nat.add_sub_cancel' inside.1] using above
  · rename_i outside
    have whole : n.isValidChar := by
      unfold Nat.isValidChar
      unfold firstHalf at outside
      omega
    rw [number, Char.ofNat, dif_pos whole]
    exact above

namespace Text

structure IsBarrier (code : Code) : Prop where
  counts : isCaseIgnored code = false
  caseless : isCased code = false

variable {code : Code} {before a b : List Code}

theorem lowerFrom_cons (notSigma : code ≠ Code.char 'Σ') (notDotted : code ≠ Code.char 'İ') :
    lowerFrom before (code :: a) = lowerCode code :: lowerFrom (code :: before) a := by
  simp [lowerFrom, notSigma, notDotted]

theorem meetsCased_append (barrier : IsBarrier code) :
    meetsCased (a ++ code :: b) = meetsCased a := by
  unfold meetsCased
  induction a with
  | nil =>
    rw [List.nil_append, List.dropWhile_cons_of_neg (by simp [barrier.counts])]
    exact barrier.caseless
  | cons first rest ih =>
    rw [List.cons_append]
    cases ignored : isCaseIgnored first with
    | true => rwa [List.dropWhile_cons_of_pos ignored, List.dropWhile_cons_of_pos ignored]
    | false =>
      rw [List.dropWhile_cons_of_neg (by simp [ignored]),
        List.dropWhile_cons_of_neg (by simp [ignored])]

theorem lowerFrom_behind (barrier : IsBarrier code) (before : List Code) :
    lowerFrom (before ++ code :: b) a = lowerFrom before a := by
  induction a generalizing before with
  | nil => rfl
  | cons first rest ih =>
    rw [lowerFrom, lowerFrom, meetsCased_append barrier, ← List.cons_append, ih]

theorem lowerFrom_append (barrier : IsBarrier code) :
    lowerFrom before (a ++ code :: b) = lowerFrom before a ++ lowerCode code :: lowerFrom [] b := by
  induction a generalizing before with
  | nil =>
    -- The two characters with a rule of their own have a case.
    have notSigma : code ≠ Code.char 'Σ' := by
      rintro rfl
      exact absurd barrier.caseless (by decide)
    have notDotted : code ≠ Code.char 'İ' := by
      rintro rfl
      exact absurd barrier.caseless (by decide)
    have later : lowerFrom (code :: before) b = lowerFrom [] b := lowerFrom_behind barrier []
    rw [List.nil_append, lowerFrom_cons notSigma notDotted, later]
    rfl
  | cons first rest ih =>
    rw [List.cons_append, lowerFrom, lowerFrom, meetsCased_append barrier, ih, List.append_assoc]

theorem isBarrier_space : IsBarrier ' ' := ⟨by decide, by decide⟩

theorem lower_join (a b : Text) : (a ++ " " ++ b).lower = a.lower ++ " " ++ b.lower := by
  have codes : (a ++ " " ++ b).codes = a.codes ++ Code.char ' ' :: b.codes :=
    List.append_assoc ..
  have same : lowerCode ' ' = Code.char ' ' := by decide
  have parts : (a.lower ++ " " ++ b.lower).codes =
      lowerFrom [] a.codes ++ Code.char ' ' :: lowerFrom [] b.codes := List.append_assoc ..
  refine codes_inj ?_
  rw [parts, lower, codes, lowerFrom_append isBarrier_space, same]

/-! ### Characters of ASCII -/

theorem capitalRuns_above : ∀ run ∈ capitalRuns,
    ('g'.toNat : Int) ≤ run.1 + run.2.2.2 ∧ run.2.1 + run.2.2.2 < 0x110000 := by
  decide +kernel

theorem le_number_lowerCode (beyond : isAscii code = false) :
    'g'.toNat ≤ (lowerCode code).number := by
  rw [lowerCode, if_neg (by simp [beyond])]
  dsimp only
  split
  · rename_i first last step distance found
    have inside := List.find?_some found
    have run := capitalRuns_above _ (List.mem_of_find?_eq_some found)
    simp only [Bool.and_eq_true, decide_eq_true_eq] at inside run
    exact Code.le_number_ofNumber (by omega) (by omega)
  · have large : 128 ≤ code.number := by simpa [isAscii] using beyond
    exact Nat.le_trans (by decide) large

theorem lowerFrom_of_isAscii (ascii : ∀ code ∈ a, isAscii code = true) :
    lowerFrom before a = a.map lowerCode := by
  induction a generalizing before with
  | nil => rfl
  | cons first rest ih =>
    rw [List.forall_mem_cons] at ascii
    have notSigma : first ≠ Code.char 'Σ' := by rintro rfl; exact absurd ascii.1 (by decide)
    have notDotted : first ≠ Code.char 'İ' := by rintro rfl; exact absurd ascii.1 (by decide)
    rw [lowerFrom_cons notSigma notDotted, ih ascii.2]
    rfl

/-- A text whose lower case has only signs from before the letter `g` is in ASCII. -/
theorem isAscii_of_lowerFrom (below : ∀ code ∈ lowerFrom before a, code.number < 'g'.toNat) :
    ∀ code ∈ a, isAscii code = true := by
  induction a generalizing before with
  | nil => exact fun code member => absurd member List.not_mem_nil
  | cons first rest ih =>
    have notSigma : first ≠ Code.char 'Σ' := by
      rintro rfl
      have small := below (if meetsCased before && !meetsCased rest then 'ς' else 'σ') (by
        simp [lowerFrom])
      split at small <;> exact absurd small (by decide)
    have notDotted : first ≠ Code.char 'İ' := by
      rintro rfl
      exact absurd (below 'i' (by simp [lowerFrom])) (by decide)
    rw [lowerFrom_cons notSigma notDotted, List.forall_mem_cons] at below
    refine List.forall_mem_cons.2 ⟨?_, ih below.2⟩
    cases beyond : isAscii first with
    | true => rfl
    | false => exact absurd below.1 (Nat.not_lt.2 (le_number_lowerCode beyond))

end Text

end PersonalFeed
