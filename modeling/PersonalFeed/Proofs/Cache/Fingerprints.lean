import PersonalFeed.Number.Double
import PersonalFeed.PostId
import PersonalFeed.Proofs.Cache.Keys
import PersonalFeed.Proofs.Results
import PersonalFeed.Weights.Fingerprint

/-!
The parts of a key that come from a checked request. Ids are hexadecimal digits and hyphens, and a
fingerprint consists of names of signals and written numbers, so none of them holds a colon.
-/

set_option autoImplicit false

namespace PersonalFeed

/-- Numbers are written without the signs that separate the parts of keys and fingerprints. -/
class PlainText (R : Type) [Numeral R] : Prop where
  notMem : ∀ x : R, ':' ∉ (Numeral.text x).toList ∧ ',' ∉ (Numeral.text x).toList

namespace Number

variable {c : Char}

theorem notMem_toDigits (n : Nat) (other : c.isDigit = false) : c ∉ Nat.toDigits 10 n := by
  rw [← Nat.toList_repr]
  exact notMem_repr n other

theorem notMem_powerText (e : Int) (other : c.isDigit = false) (minus : c ≠ '-') (plus : c ≠ '+') :
    c ∉ powerText e := by
  have zero : c ≠ '0' := fun same => by simp [same] at other
  have digits := notMem_toDigits e.natAbs other
  unfold powerText
  dsimp only
  split <;> split <;> simp [digits, zero, minus, plus]

theorem notMem_layOut {digits : List Char} (point : Int) (free : c ∉ digits)
    (other : c.isDigit = false) (minus : c ≠ '-') (plus : c ≠ '+') (dot : c ≠ '.')
    (power : c ≠ 'e') : c ∉ layOut digits point := by
  have zero : c ≠ '0' := fun same => by simp [same] at other
  have taken (n : Nat) : c ∉ digits.take n := fun member => free (List.mem_of_mem_take member)
  have dropped (n : Nat) : c ∉ digits.drop n := fun member => free (List.mem_of_mem_drop member)
  have tail : c ∉ digits.tail := fun member => free (List.mem_of_mem_tail member)
  have powers := notMem_powerText (point - 1) other minus plus
  unfold layOut
  split
  · split
    · simp [zero, dot, free]
    · dsimp only
      split <;> simp_all
  · dsimp only
    split <;> simp_all

theorem notMem_shortestText (x : Float) (other : c.isDigit = false) (minus : c ≠ '-')
    (plus : c ≠ '+') (dot : c ≠ '.') (power : c ≠ 'e')
    (words : c ∉ "nan".toList ∧ c ∉ "-inf".toList ∧ c ∉ "inf".toList) :
    c ∉ (shortestText x).toList := by
  have zero : c ≠ '0' := fun same => by simp [same] at other
  unfold shortestText
  split
  · split
    · exact words.1
    · split
      · exact words.2.1
      · exact words.2.2
  · rename_i value _
    -- The digits are a part of those of the shortest decimal, which are digits of base ten.
    have digits : c ∉ (Decimal.shortest value).significantDigits.1 := by
      intro member
      have inside := List.mem_reverse.1 member
      have kept := (List.dropWhile_sublist _).subset inside
      exact notMem_toDigits _ other (List.mem_reverse.1 kept)
    have laid := notMem_layOut (Decimal.shortest value).significantDigits.2 digits other minus plus
      dot power
    dsimp only
    split
    · split <;> simp [zero, dot, minus]
    · split <;> simp [laid, minus]

end Number

instance : PlainText Float where
  notMem x := ⟨Number.notMem_shortestText x (by decide) (by decide) (by decide) (by decide)
      (by decide) (by decide),
    Number.notMem_shortestText x (by decide) (by decide) (by decide) (by decide) (by decide)
      (by decide)⟩

namespace PostId

theorem hexDigit_spec (digit : Nat) (small : digit < 16) :
    digit.digitChar ≠ ':' ∧ digit.digitChar.isAlphanum = true := by
  revert digit
  decide

theorem mem_hexDigits {skipped count n : Nat} {c : Char} (member : c ∈ hexDigits skipped count n) :
    c ≠ ':' ∧ c.isAlphanum = true := by
  obtain ⟨place, _, rfl⟩ := List.mem_map.1 member
  exact hexDigit_spec _ (Nat.mod_lt _ (by omega))

theorem write_lacks (n : Nat) : (write n).Lacks ':' := by
  have free (skipped count : Nat) : ':' ∉ hexDigits skipped count n :=
    fun member => (mem_hexDigits member).1 rfl
  simp [Text.Lacks, write, Text.ofChars, free]

theorem length_write (n : Nat) : (write n).length = 36 := by
  simp [Text.length, write, Text.ofChars, hexDigits]

theorem check_ok {R : Type} {field : Text} {given : Json R} {id : Text}
    (checked : check field given = .ok id) : ∃ n, id = write n := by
  unfold check at checked
  split at checked
  · split at checked
    · cases checked
    · split at checked
      · rename_i canonical
        cases checked
        obtain ⟨n, _, written⟩ := Option.map_eq_some_iff.1 canonical
        exact ⟨n, written.symm⟩
      · cases checked
  · cases checked

theorem checkCursor_ok {R : Type} {given : Json R} {cursor : Option Text}
    (checked : checkCursor given = .ok cursor) :
    ∀ post, cursor = some post → ∃ n, post = write n := by
  rintro post rfl
  unfold checkCursor at checked
  split at checked
  · cases checked
  · obtain ⟨id, checked, same⟩ := ok_of_map checked
    cases same
    exact check_ok checked

end PostId

namespace Weights

variable {R : Type} [Numeral R]

theorem signal_of_accepted {weights accepted : Weights R} {overrides : List (Text × Json R)}
    (checked : weights.withOverrides overrides = .ok accepted) {change : Text × Json R}
    (member : change ∈ changes overrides) : ∃ signal : Signal, change.1 = signal.name := by
  unfold withOverrides at checked
  dsimp only at checked
  split at checked
  · rename_i empty
    rw [List.isEmpty_iff] at empty
    rw [empty] at member
    cases member
  · have replaced := ok_of_mapError checked
    unfold replace at replaced
    split at replaced
    · cases replaced
    · rename_i known
      cases named : Signal.ofName? change.1 with
      | none => exact absurd (List.any_eq_true.2 ⟨change, member, by simp [named]⟩) known
      | some signal => exact ⟨signal, (Signal.name_of_ofName? named).symm⟩

theorem name_lacks (signal : Signal) : (signal.name : Text).Lacks ':' := by
  cases signal <;> decide

theorem fingerprintOf_lacks [PlainText R] {numbers : List (Text × R)}
    (names : ∀ number ∈ numbers, number.1.Lacks ':') : (fingerprintOf numbers).Lacks ':' := by
  unfold fingerprintOf
  split
  · decide
  · refine Text.lacks_intercalate (by decide) fun text member => ?_
    obtain ⟨number, inside, rfl⟩ := List.mem_map.1 member
    have name := names number (List.mem_mergeSort.1 inside)
    have value : (Numeral.text number.2 : Text).Lacks ':' :=
      Text.lacks_ofString.2 (PlainText.notMem number.2).1
    exact Text.lacks_append.2 ⟨Text.lacks_append.2 ⟨name, by decide⟩, value⟩

theorem fingerprint_lacks [PlainText R] {weights accepted : Weights R}
    {overrides : List (Text × Json R)} {fingerprint : Text}
    (checked : weights.withOverrides overrides = .ok accepted)
    (made : Weights.fingerprint overrides = .ok fingerprint) : fingerprint.Lacks ':' := by
  obtain ⟨numbers, read, made⟩ := ok_of_bind made
  cases made
  refine fingerprintOf_lacks fun number member => ?_
  obtain ⟨change, inside, found⟩ := mem_of_mapM read member
  obtain ⟨signal, named⟩ := signal_of_accepted checked (List.mem_mergeSort.1 inside)
  have same : number.1 = change.1 := by
    cases value : change.2.toReal with
    | error cause => simp [value] at found
    | ok x =>
      simp only [value] at found
      cases found
      rfl
  rw [same, named]
  exact name_lacks signal

end Weights

end PersonalFeed
