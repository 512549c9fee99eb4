import Mathlib.Data.List.Nodup
import PersonalFeed.Proofs.Ranking.Signs

/-!
Weights put over other weights. A signal gets the value that is laid over it, or else keeps the
number below; what is accepted is exactly what comes to valid weights that way.
-/

set_option autoImplicit false

namespace PersonalFeed

namespace Weights

open Scalar

variable {R : Type} [Numeral R]

/-- Weights as every source of them has to be: finite, not below zero, and not all zero. -/
structure IsValid (weights : Weights R) : Prop extends weights.IsProper where
  finite : ∀ signal, isFinite (weights.get signal) = true

inductive Weighs : Json R → R → Prop where
  | int {n : Int} : Number.isWideWord n = true → isFinite (ofInt n : R) = true →
      isNegative (ofInt n : R) = false → Weighs (.int n) (ofInt n)
  | real {x : R} : isFinite x = true → isNegative x = false → Weighs (.real x) x

structure Fits (given : Signal → Json R) (weights : Weights R) : Prop where
  weighs : ∀ signal, Weighs (given signal) (weights.get signal)
  total : le weights.total zero = false

theorem checkReal_ok_iff {signal : Signal} {given : Json R} {x y : R} :
    checkReal signal given x = .ok y ↔ isFinite x = true ∧ isNegative x = false ∧ x = y := by
  unfold checkReal
  split
  · rename_i fits
    simp at fits
    simp [fits]
  · rename_i misfits
    constructor
    · intro accepted
      cases accepted
    · rintro ⟨finite, up, -⟩
      simp [finite, up] at misfits

theorem checkWeight_ok_iff {signal : Signal} {given : Json R} {x : R} :
    checkWeight signal given = .ok x ↔ Weighs given x := by
  constructor
  · intro accepted
    cases given with
    | int n =>
      rw [checkWeight] at accepted
      split at accepted
      · obtain ⟨finite, up, rfl⟩ := checkReal_ok_iff.1 accepted
        exact .int ‹_› finite up
      · cases accepted
    | real y =>
      obtain ⟨finite, up, rfl⟩ := checkReal_ok_iff.1 accepted
      exact .real finite up
    | null | bool | string | array | object => cases accepted
  · intro weighs
    cases weighs with
    | int wide finite up =>
      rw [checkWeight, if_pos wide]
      exact checkReal_ok_iff.2 ⟨finite, up, rfl⟩
    | real finite up => exact checkReal_ok_iff.2 ⟨finite, up, rfl⟩

theorem check_ok_iff {given : Signal → Json R} {weights : Weights R} :
    check given = .ok weights ↔ Fits given weights := by
  constructor
  · intro accepted
    exact ⟨fun signal => checkWeight_ok_iff.1 (checkWeight_of_check accepted signal),
      (isProper_of_check accepted).total⟩
  · rintro ⟨weighs, total⟩
    have each (signal : Signal) : checkWeight signal (given signal) = .ok (weights.get signal) :=
      checkWeight_ok_iff.2 (weighs signal)
    simp only [check, each]
    change (if le weights.total zero = true then _ else Except.ok weights) = _
    simp [total]

theorem Fits.unique {given : Signal → Json R} {weights others : Weights R}
    (fits : Fits given weights) (fits' : Fits given others) : weights = others :=
  Except.ok.inj ((check_ok_iff.2 fits).symm.trans (check_ok_iff.2 fits'))

theorem isFinite_of_weighs {given : Json R} {x : R} (weighs : Weighs given x) :
    isFinite x = true := by
  cases weighs with
  | int _ finite _ => exact finite
  | real finite _ => exact finite

theorem isValid_of_check {given : Signal → Json R} {weights : Weights R}
    (accepted : check given = .ok weights) : weights.IsValid where
  toIsProper := isProper_of_check accepted
  finite signal := isFinite_of_weighs ((check_ok_iff.1 accepted).weighs signal)

theorem IsValid.fits {weights : Weights R} (valid : weights.IsValid) :
    Fits (fun signal => .real (weights.get signal)) weights where
  weighs signal := .real (valid.finite signal) (valid.up signal)
  total := valid.total

/-- The value of a signal: what the overrides give it, or the weight below where they give it
nothing. -/
def layered (overrides : List (Text × Json R)) (below : Weights R) (signal : Signal) : Json R :=
  match Json.find? signal.name overrides with
  | none | some .null => .real (below.get signal)
  | some value => value

/-- The weights that overrides come to over others, if they come to any: only signals are named,
and all values fit. -/
structure LaidOver (overrides : List (Text × Json R)) (below weights : Weights R) : Prop where
  known : ∀ change ∈ overrides, change.2 ≠ .null → ∃ signal : Signal, change.1 = signal.name
  fits : Fits (layered overrides below) weights

theorem LaidOver.unique {overrides : List (Text × Json R)} {below weights others : Weights R}
    (laid : LaidOver overrides below weights) (laid' : LaidOver overrides below others) :
    weights = others :=
  laid.fits.unique laid'.fits

omit [Numeral R] in
theorem mem_changes {overrides : List (Text × Json R)} {change : Text × Json R} :
    change ∈ changes overrides ↔ change ∈ overrides ∧ change.2 ≠ .null := by
  rw [changes, List.mem_filter]
  refine and_congr_right fun _ => ?_
  cases change.2 <;> simp

omit [Numeral R] in
/-- Where names are given once, leaving out those without a value changes no value. -/
theorem find?_changes {overrides : List (Text × Json R)} (once : (overrides.map Prod.fst).Nodup)
    (below : Weights R) (signal : Signal) :
    (Json.find? signal.name (changes overrides)).getD (.real (below.get signal)) =
      layered overrides below signal := by
  unfold layered
  cases first : overrides.find? (·.1 = (signal.name : Text)) with
  | none =>
    have missing : (changes overrides).find? (·.1 = (signal.name : Text)) = none := by
      rw [List.find?_eq_none] at first ⊢
      exact fun change member => first change (mem_changes.1 member).1
    simp [Json.find?, first, missing]
  | some change =>
    have member := List.mem_of_find?_eq_some first
    have named : change.1 = (signal.name : Text) := by simpa using List.find?_some first
    by_cases empty : change.2 = .null
    · -- The name is given without a value, and once, so no change has it.
      have missing : (changes overrides).find? (·.1 = (signal.name : Text)) = none := by
        rw [List.find?_eq_none]
        intro other inside same
        obtain ⟨there, given⟩ := mem_changes.1 inside
        have both : other = change := List.inj_on_of_nodup_map once there member
          ((of_decide_eq_true same).trans named.symm)
        exact given (both ▸ empty)
      simp [Json.find?, first, missing, empty]
    · have found := find?_of_once once (mem_changes.2 ⟨member, empty⟩)
      rw [named] at found
      simp only [Json.find?, first, found, Option.map_some, Option.getD_some]

theorem replace_ok_iff {overrides : List (Text × Json R)} (once : (overrides.map Prod.fst).Nodup)
    {below weights : Weights R} :
    below.replace (changes overrides) = .ok weights ↔ LaidOver overrides below weights := by
  have values : (fun signal : Signal =>
      (Json.find? signal.name (changes overrides)).getD (.real (below.get signal))) =
        layered overrides below := funext (find?_changes once below)
  rw [replace, values]
  constructor
  · intro accepted
    split at accepted
    · cases accepted
    · rename_i known
      refine ⟨fun change member given => ?_, check_ok_iff.1 accepted⟩
      -- Every changed name is that of a signal, so no change is lost between the names and the
      -- signals.
      have named := known
      simp only [List.any_eq_true, not_exists, not_and] at named
      cases signal : Signal.ofName? change.1 with
      | none => exact absurd (by simp [signal]) (named change (mem_changes.2 ⟨member, given⟩))
      | some found => exact ⟨found, (Signal.name_of_ofName? signal).symm⟩
  · rintro ⟨known, fits⟩
    have named : ¬ ((changes overrides).any fun change =>
        (Signal.ofName? change.1).isNone) = true := by
      simp only [List.any_eq_true, not_exists, not_and]
      intro change member
      obtain ⟨there, given⟩ := mem_changes.1 member
      obtain ⟨signal, same⟩ := known change there given
      simp [same, Signal.ofName?_name]
    rw [if_neg named]
    exact check_ok_iff.2 fits

/-- Overrides are accepted over valid weights exactly if they come to valid weights over them, and
then as these. -/
theorem withOverrides_ok_iff {overrides : List (Text × Json R)}
    (once : (overrides.map Prod.fst).Nodup) {below weights : Weights R} (valid : below.IsValid) :
    below.withOverrides overrides = .ok weights ↔ LaidOver overrides below weights := by
  rw [← replace_ok_iff once, withOverrides]
  split
  · rename_i nothing
    have same : below.replace (changes overrides) = .ok below := by
      rw [List.isEmpty_iff.1 nothing]
      exact check_ok_iff.2 valid.fits
    simp [same]
  · constructor
    · exact ok_of_mapError
    · intro replaced
      rw [replaced]
      rfl

theorem laidOver_nil_iff {below weights : Weights R} (valid : below.IsValid) :
    LaidOver [] below weights ↔ below = weights := by
  have once : (([] : List (Text × Json R)).map Prod.fst).Nodup := .nil
  exact (withOverrides_ok_iff once valid).symm.trans ⟨Except.ok.inj, congrArg Except.ok⟩

omit [Numeral R] in
theorem mem_names {name : Text} : name ∈ names ↔ ∃ signal : Signal, name = signal.name := by
  rw [names, List.mem_map]
  constructor
  · rintro ⟨signal, -, same⟩
    exact ⟨signal, same.symm⟩
  · rintro ⟨signal, same⟩
    exact ⟨signal, by cases signal <;> simp [Signal.all], same.symm⟩

omit [Numeral R] in
/-- No name is missing and none is unknown where exactly the signals are named. -/
theorem isEmpty_missing_unknown (fields : List (Text × Json R)) :
    ((missing (fields.map fun field => (.string field.1 : Json R))).isEmpty = true ∧
      (unknown (fields.map fun field => (.string field.1 : Json R))).isEmpty = true) ↔
    ∀ name : Text, name ∈ fields.map Prod.fst ↔ ∃ signal : Signal, name = signal.name := by
  have texts : (fields.map fun field => (.string field.1 : Json R)).filterMap Json.text? =
      fields.map Prod.fst := by
    rw [List.filterMap_map]
    exact List.filterMap_eq_map.symm ▸ rfl
  -- That none is missing is one inclusion, and that none is unknown the other.
  have all : (missing (fields.map fun field => (.string field.1 : Json R))).isEmpty = true ↔
      ∀ name ∈ names, name ∈ fields.map Prod.fst := by
    rw [missing, texts, List.isEmpty_iff, ← List.length_eq_zero_iff, List.length_mergeSort,
      List.length_eq_zero_iff, List.filter_eq_nil_iff]
    simp
  have only : (unknown (fields.map fun field => (.string field.1 : Json R))).isEmpty = true ↔
      ∀ name ∈ fields.map Prod.fst, name ∈ names := by
    rw [unknown, List.isEmpty_iff, List.filter_eq_nil_iff, List.forall_mem_map, List.forall_mem_map]
    simp [Json.text?]
  rw [all, only]
  constructor
  · rintro ⟨enough, few⟩ name
    exact ⟨fun member => mem_names.1 (few name member), fun known => enough name (mem_names.2 known)⟩
  · intro exact_names
    exact ⟨fun name member => (exact_names name).2 (mem_names.1 member),
      fun name member => mem_names.2 ((exact_names name).1 member)⟩

/-- Stored weights are a record of the five signals and nothing else, with values that fit. -/
theorem ofStored_ok_iff {stored : Json R} {weights : Weights R} :
    ofStored stored = .ok weights ↔ ∃ fields, stored = .object fields ∧
      (∀ name : Text, name ∈ fields.map Prod.fst ↔ ∃ signal : Signal, name = signal.name) ∧
      Fits (fun signal => (Json.find? signal.name fields).getD .null) weights := by
  constructor
  · intro accepted
    obtain ⟨members, listed, accepted⟩ := ok_of_bind accepted
    dsimp only at accepted
    split at accepted
    · rename_i named
      cases stored with
      | object fields =>
        cases listed
        exact ⟨fields, rfl, (isEmpty_missing_unknown fields).1 named,
          check_ok_iff.1 (ok_of_mapError accepted)⟩
      | null | bool | int | real | string | array => cases accepted
    · split at accepted <;> cases accepted
  · rintro ⟨fields, rfl, named, fits⟩
    have both := (isEmpty_missing_unknown fields).2 named
    change (if _ then (check _).mapError flawFault else _) = _
    rw [if_pos both, check_ok_iff.2 fits]
    rfl

theorem isValid_of_stored {stored : Json R} {weights : Weights R}
    (accepted : ofStored stored = .ok weights) : weights.IsValid := by
  obtain ⟨fields, -, -, fits⟩ := ofStored_ok_iff.1 accepted
  exact isValid_of_check (check_ok_iff.2 fits)

theorem ofStored_toJson {weights : Weights R} (valid : weights.IsValid) :
    ofStored weights.toJson = .ok weights := by
  refine ofStored_ok_iff.2 ⟨_, rfl, fun name => ?_, ?_⟩
  · rw [← mem_names, names, List.map_map]
    rfl
  · have values : (fun signal : Signal => (Json.find? signal.name (Signal.all.map fun signal =>
        ((signal.name : Text), (.real (weights.get signal) : Json R)))).getD .null) =
          fun signal => .real (weights.get signal) := by
      funext signal
      cases signal <;> rfl
    rw [values]
    exact valid.fits

theorem error_of_misfit {overrides : List (Text × Json R)} {below : Weights R}
    (once : (overrides.map Prod.fst).Nodup) (valid : below.IsValid)
    (misfit : ¬ ∃ weights, LaidOver overrides below weights) :
    ∃ flaw, below.withOverrides overrides = .error (.override flaw) := by
  cases ended : below.withOverrides overrides with
  | ok weights => exact absurd ⟨weights, (withOverrides_ok_iff once valid).1 ended⟩ misfit
  | error cause =>
    unfold withOverrides at ended
    dsimp only at ended
    split at ended
    · cases ended
    · cases replaced : below.replace (changes overrides) with
      | ok weights => simp [replaced, Except.mapError] at ended
      | error flaw =>
        rw [replaced] at ended
        cases ended
        exact ⟨flaw, rfl⟩

end Weights

theorem Config.isValid_of_accepted {R : Type} [Numeral R] {config : Config R}
    (accepted : config.IsAccepted) : config.weights.IsValid := by
  obtain ⟨settings, read⟩ := accepted
  obtain ⟨weights, checked, read⟩ := ok_of_bind read
  dsimp only at read
  split at read
  · cases read
    exact Weights.isValid_of_check (ok_of_mapError checked)
  · cases read

end PersonalFeed
