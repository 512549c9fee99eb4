import PersonalFeed.Proofs.Cache.Fingerprints

/-!
Requests whose overrides have one fingerprint have the same weights. A fingerprint names each signal
that is overridden and the number it gets, and the order in which a request gives them is lost in
it as it is in the weights.
-/

set_option autoImplicit false

namespace PersonalFeed

/-- Different finite numbers are written differently. -/
class FaithfulText (R : Type) [Numeral R] : Prop extends PlainText R where
  text_inj : ∀ x y : R, Scalar.isFinite x = true → Scalar.isFinite y = true →
    Numeral.text x = Numeral.text y → x = y

section

variable {β : Type}

def namedBefore (a b : Text × β) : Bool := a.1 ≤ b.1

theorem namedBefore_trans (a b c : Text × β) (first : namedBefore a b = true)
    (second : namedBefore b c = true) : namedBefore a c = true := by
  simp only [namedBefore, decide_eq_true_eq] at *
  exact Text.not_lt_trans second first

theorem namedBefore_total (a b : Text × β) : (namedBefore a b || namedBefore b a) = true := by
  simp only [namedBefore, Bool.or_eq_true, decide_eq_true_eq]
  by_cases less : b.1 < a.1
  · exact .inr fun more => Text.lt_irrefl _ (Text.lt_trans less more)
  · exact .inl less

theorem find?_sorted (name : Text) (entries : List (Text × β)) :
    (entries.mergeSort namedBefore).find? (·.1 = name) = entries.find? (·.1 = name) := by
  have level : (entries.filter (·.1 = name)).Pairwise fun a b => namedBefore a b = true := by
    refine List.pairwise_iff_forall_sublist.2 fun {a b} inside => ?_
    have first := (List.mem_filter.1 (inside.subset List.mem_cons_self)).2
    have second := (List.mem_filter.1 (inside.subset (List.mem_cons_of_mem _ List.mem_cons_self))).2
    simp only [decide_eq_true_eq] at first second
    simp only [namedBefore, first, second, decide_eq_true_eq]
    exact Text.lt_irrefl name
  have kept := (List.sublist_mergeSort namedBefore_trans namedBefore_total level
    List.filter_sublist).filter fun entry => decide (entry.1 = name)
  rw [List.filter_filter] at kept
  have sizes := ((List.mergeSort_perm entries namedBefore).filter
    fun entry => decide (entry.1 = name)).length_eq
  have same := kept.eq_of_length (by simpa using sizes.symm)
  rw [← List.head?_filter, ← same, ← List.head?_filter]
  simp

theorem find?_forall₂ {γ δ : Type} {f : Text × β → δ} {g : Text × γ → δ}
    {entries : List (Text × β)} {others : List (Text × γ)}
    (related : List.Forall₂ (fun entry other => other.1 = entry.1 ∧ g other = f entry)
      entries others) (name : Text) :
    (others.find? (·.1 = name)).map g = (entries.find? (·.1 = name)).map f := by
  induction related with
  | nil => rfl
  | @cons entry other rest others same _ ih =>
    by_cases named : entry.1 = name
    · simp [same.1, named, same.2]
    · simp [same.1, named, ih]

end

namespace Weights

variable {R : Type} [Numeral R]

def piece (number : Text × R) : Text := number.1 ++ "=" ++ Numeral.text number.2

theorem fingerprintOf_eq (numbers : List (Text × R)) :
    fingerprintOf numbers =
      if numbers.isEmpty then ("default" : Text)
      else Text.intercalate ⟨[.char ',']⟩ ((numbers.mergeSort namedBefore).map piece) := rfl

/-- What the fingerprint of overrides is made of: the number of each change. -/
theorem fingerprint_ok {overrides : List (Text × Json R)} {fingerprint : Text}
    (made : Weights.fingerprint overrides = .ok fingerprint) :
    ∃ numbers : List (Text × R), fingerprint = fingerprintOf numbers ∧
      (∀ number ∈ numbers, ∃ change ∈ changes overrides, number.1 = change.1) ∧
      ∀ name, (numbers.find? (·.1 = name)).map (fun number => Except.ok number.2) =
        ((changes overrides).find? (·.1 = name)).map fun change => change.2.toReal := by
  obtain ⟨numbers, read, made⟩ := ok_of_bind made
  have related := (mapM_ok_iff _ _ _).1 read
  -- In sorted order each change stands beside its number; what is found by a name does not depend
  -- on the order.
  have related : List.Forall₂ (fun (change : Text × Json R) (number : Text × R) =>
      number.1 = change.1 ∧ Except.ok number.2 = change.2.toReal)
      ((changes overrides).mergeSort namedBefore) numbers := by
    refine related.imp fun change number found => ?_
    cases value : change.2.toReal with
    | error cause => simp [value] at found
    | ok x =>
      simp only [value] at found
      cases found
      exact ⟨rfl, rfl⟩
  refine ⟨numbers, (Except.ok.inj made).symm, fun number member => ?_, fun name => ?_⟩
  · obtain ⟨change, inside, found⟩ := mem_of_mapM read member
    refine ⟨change, List.mem_mergeSort.1 inside, ?_⟩
    cases value : change.2.toReal with
    | error cause => simp [value] at found
    | ok x =>
      simp only [value] at found
      cases found
      rfl
  · rw [find?_forall₂ related, find?_sorted]

theorem name_lacks_mark (signal : Signal) :
    (signal.name : Text).Lacks '=' ∧ (signal.name : Text).Lacks ',' := by
  cases signal <;> decide

section

variable [PlainText R] {numbers others : List (Text × R)}

theorem piece_lacks {number : Text × R} (named : ∃ signal : Signal, number.1 = signal.name) :
    (piece number).Lacks ',' := by
  obtain ⟨signal, named⟩ := named
  refine Text.lacks_append.2 ⟨Text.lacks_append.2 ⟨?_, by decide⟩, ?_⟩
  · rw [named]
    exact (name_lacks_mark signal).2
  · exact Text.lacks_ofString.2 (PlainText.notMem number.2).2

omit [PlainText R] in
theorem piece_inj {number other : Text × R} (named : ∃ signal : Signal, number.1 = signal.name)
    (named' : ∃ signal : Signal, other.1 = signal.name) (same : piece number = piece other) :
    number.1 = other.1 ∧ Numeral.text number.2 = Numeral.text other.2 := by
  have regroup (number : Text × R) : (piece number).codes =
      number.1.codes ++ Code.char '=' :: (Numeral.text number.2 : Text).codes := by
    change (number.1.codes ++ [Code.char '=']) ++ _ = _
    simp
  have free {number : Text × R} (named : ∃ signal : Signal, number.1 = signal.name) :
      Code.char '=' ∉ number.1.codes := by
    obtain ⟨signal, named⟩ := named
    rw [named]
    exact (name_lacks_mark signal).1
  have codes := congrArg Text.codes same
  rw [regroup, regroup] at codes
  obtain ⟨names, texts⟩ := split_at_first (free named) (free named') codes
  exact ⟨Text.codes_inj names, Text.ofString_inj (Text.codes_inj texts)⟩

omit [PlainText R] in
theorem find?_of_pieces (named : ∀ number ∈ numbers, ∃ signal : Signal, number.1 = signal.name)
    (named' : ∀ number ∈ others, ∃ signal : Signal, number.1 = signal.name)
    (same : numbers.map piece = others.map piece) (name : Text) :
    (numbers.find? (·.1 = name)).map (fun number => Numeral.text number.2) =
      (others.find? (·.1 = name)).map fun number => Numeral.text number.2 := by
  induction numbers generalizing others with
  | nil => rw [List.map_eq_nil_iff.1 same.symm]
  | cons number rest ih =>
    cases others with
    | nil => cases same
    | cons other others =>
      obtain ⟨heads, tails⟩ := List.cons.inj same
      obtain ⟨names, texts⟩ :=
        piece_inj (named number List.mem_cons_self) (named' other List.mem_cons_self) heads
      have later := ih (fun number member => named number (List.mem_cons_of_mem _ member))
        (fun other member => named' other (List.mem_cons_of_mem _ member)) tails
      by_cases here : number.1 = name
      · simp [here, ← names, texts]
      · simp [here, ← names, later]

omit [PlainText R] in
theorem fingerprintOf_ne_default {number : Text × R} {rest : List (Text × R)} :
    fingerprintOf (number :: rest) ≠ "default" := by
  intro same
  rw [fingerprintOf_eq, List.isEmpty_cons, if_neg Bool.false_ne_true] at same
  have plain : ("default" : Text).Lacks '=' := by decide
  rw [← same] at plain
  have inside : piece number ∈ ((number :: rest).mergeSort namedBefore).map piece :=
    List.mem_map_of_mem (List.mem_mergeSort.2 List.mem_cons_self)
  have free := Text.lacks_of_intercalate plain _ inside
  rw [piece, Text.lacks_append, Text.lacks_append] at free
  exact absurd free.1.2 (by decide)

theorem find?_of_fingerprintOf
    (named : ∀ number ∈ numbers, ∃ signal : Signal, number.1 = signal.name)
    (named' : ∀ number ∈ others, ∃ signal : Signal, number.1 = signal.name)
    (same : fingerprintOf numbers = fingerprintOf others) (name : Text) :
    (numbers.find? (·.1 = name)).map (fun number => Numeral.text number.2) =
      (others.find? (·.1 = name)).map fun number => Numeral.text number.2 := by
  cases numbers with
  | nil =>
    cases others with
    | nil => rfl
    | cons other others => exact absurd same.symm fingerprintOf_ne_default
  | cons number numbers =>
    cases others with
    | nil => exact absurd same fingerprintOf_ne_default
    | cons other others =>
      rw [fingerprintOf_eq, fingerprintOf_eq, List.isEmpty_cons, List.isEmpty_cons,
        if_neg Bool.false_ne_true, if_neg Bool.false_ne_true] at same
      have free (numbers : List (Text × R))
          (named : ∀ number ∈ numbers, ∃ signal : Signal, number.1 = signal.name) :
          ∀ text ∈ (numbers.mergeSort namedBefore).map piece, text.Lacks ',' := by
        intro text member
        obtain ⟨number, inside, rfl⟩ := List.mem_map.1 member
        exact piece_lacks (named number (List.mem_mergeSort.1 inside))
      have some (number : Text × R) (rest : List (Text × R)) :
          ((number :: rest).mergeSort namedBefore).map piece ≠ [] := by
        intro empty
        have sizes := congrArg List.length empty
        simp at sizes
      -- No piece has a comma, so the text gives the pieces back.
      have pieces := Text.intercalate_inj (free _ named) (free _ named') (some _ _) (some _ _) same
      rw [← find?_sorted, ← find?_sorted name (other :: others)]
      exact find?_of_pieces (fun number member => named number (List.mem_mergeSort.1 member))
        (fun other member => named' other (List.mem_mergeSort.1 member)) pieces name

end

theorem toReal_of_checkWeight {signal : Signal} {given : Json R} {x : R}
    (accepted : checkWeight signal given = .ok x) :
    given.toReal = .ok x ∧ Scalar.isFinite x = true := by
  have finite {y : R} (checked : checkReal signal given y = .ok x) :
      y = x ∧ Scalar.isFinite x = true := by
    unfold checkReal at checked
    split at checked
    · rename_i fits
      cases checked
      exact ⟨rfl, (Bool.and_eq_true _ _ ▸ fits).1⟩
    · cases checked
  -- Only numbers are accepted. A whole one is read as it is checked, unless it is beyond a word.
  cases given with
  | int n =>
    rw [checkWeight] at accepted
    split at accepted
    · obtain ⟨rfl, finite⟩ := finite accepted
      exact ⟨by simp [Json.toReal, Json.number, Json.realOfInt, finite], finite⟩
    · cases accepted
  | real y =>
    obtain ⟨rfl, finite⟩ := finite accepted
    exact ⟨rfl, finite⟩
  | null | bool | string | array | object => cases accepted

theorem check_congr {given other : Signal → Json R}
    (same : ∀ signal, checkWeight signal (given signal) = checkWeight signal (other signal)) :
    check given = check other := by
  simp only [check, same]

theorem checkWeight_of_check {given : Signal → Json R} {weights : Weights R}
    (accepted : check given = .ok weights) (signal : Signal) :
    checkWeight signal (given signal) = .ok (weights.get signal) := by
  obtain ⟨similarity, first, accepted⟩ := ok_of_bind accepted
  obtain ⟨temporal, second, accepted⟩ := ok_of_bind accepted
  obtain ⟨diversity, third, accepted⟩ := ok_of_bind accepted
  obtain ⟨engagement, fourth, accepted⟩ := ok_of_bind accepted
  obtain ⟨privacy, fifth, accepted⟩ := ok_of_bind accepted
  dsimp only at accepted
  split at accepted
  · cases accepted
  · cases accepted
    cases signal <;> assumption

theorem replace_of_accepted {weights accepted : Weights R} {overrides : List (Text × Json R)}
    (checked : weights.withOverrides overrides = .ok accepted)
    (some : (changes overrides).isEmpty = false) :
    weights.replace (changes overrides) = .ok accepted := by
  rw [withOverrides, if_neg (by simp [some])] at checked
  exact ok_of_mapError checked

theorem checkWeight_of_accepted {weights accepted : Weights R} {overrides : List (Text × Json R)}
    (checked : weights.withOverrides overrides = .ok accepted) {signal : Signal}
    {change : Text × Json R}
    (found : (changes overrides).find? (·.1 = (signal.name : Text)) = some change) :
    ∃ x, checkWeight signal change.2 = .ok x := by
  have some : (changes overrides).isEmpty = false := by
    rw [List.isEmpty_eq_false_iff]
    intro empty
    rw [empty] at found
    cases found
  have replaced := replace_of_accepted checked some
  unfold replace at replaced
  split at replaced
  · cases replaced
  · refine ⟨accepted.get signal, ?_⟩
    have each := checkWeight_of_check replaced signal
    rw [Json.find?, found] at each
    exact each

theorem known_of_accepted {weights accepted : Weights R} {overrides : List (Text × Json R)}
    (checked : weights.withOverrides overrides = .ok accepted) :
    ((changes overrides).any fun change => (Signal.ofName? change.1).isNone) = false := by
  rw [List.any_eq_false]
  intro change member
  obtain ⟨signal, named⟩ := signal_of_accepted checked member
  rw [named, Signal.ofName?_name]
  exact Bool.false_ne_true

theorem isEmpty_of_accepted {weights accepted : Weights R} {overrides : List (Text × Json R)}
    (checked : weights.withOverrides overrides = .ok accepted)
    (nothing : ∀ signal : Signal,
      (changes overrides).find? (·.1 = (signal.name : Text)) = none) :
    changes overrides = [] := by
  cases given : changes overrides with
  | nil => rfl
  | cons change rest =>
    have member : change ∈ changes overrides := by simp [given]
    obtain ⟨signal, named⟩ := signal_of_accepted checked member
    have missing := List.find?_eq_none.1 (nothing signal) change member
    simp [named] at missing

omit [Numeral R] in
theorem find?_of_once {overrides : List (Text × Json R)} (once : (overrides.map Prod.fst).Nodup)
    {change : Text × Json R} (member : change ∈ changes overrides) :
    (changes overrides).find? (·.1 = change.1) = some change := by
  have nodup : ((changes overrides).map Prod.fst).Nodup :=
    (List.filter_sublist.map Prod.fst).nodup once
  generalize changes overrides = given at nodup member
  induction given with
  | nil => cases member
  | cons first rest ih =>
    rw [List.map_cons, List.nodup_cons] at nodup
    rcases List.mem_cons.1 member with rfl | member
    · exact List.find?_cons_of_pos (decide_eq_true rfl)
    · have other : ¬ first.1 = change.1 := by
        intro same
        exact nodup.1 (same ▸ List.mem_map_of_mem member)
      rw [List.find?_cons_of_neg (by simpa using other)]
      exact ih nodup.2 member

theorem fingerprint_isOk {weights accepted : Weights R} {overrides : List (Text × Json R)}
    (once : (overrides.map Prod.fst).Nodup)
    (checked : weights.withOverrides overrides = .ok accepted) :
    ∃ fingerprint, Weights.fingerprint overrides = .ok fingerprint ∧
      fingerprint.isWhole = true := by
  obtain ⟨fingerprint, made⟩ :
      ∃ fingerprint, Weights.fingerprint overrides = .ok fingerprint := by
    unfold Weights.fingerprint
    refine bind_isOk (mapM_isOk fun change sorted => ?_) fun numbers => ⟨_, rfl⟩
    -- Every change is accepted as the weight of its name, and an accepted weight has a number.
    have member := List.mem_mergeSort.1 sorted
    obtain ⟨signal, named⟩ := signal_of_accepted checked member
    have found := find?_of_once once member
    rw [named] at found
    obtain ⟨x, fits⟩ := checkWeight_of_accepted checked found
    dsimp only
    rw [(toReal_of_checkWeight fits).1]
    exact ⟨_, rfl⟩
  refine ⟨fingerprint, made, ?_⟩
  obtain ⟨numbers, rfl, named, _⟩ := fingerprint_ok made
  unfold fingerprintOf
  split
  · decide
  · rw [Text.isWhole_intercalate (by decide), List.all_map, List.all_eq_true]
    -- The names are those of weights, and the rest is written by the service itself.
    intro number sorted
    obtain ⟨change, member, same⟩ := named number (List.mem_mergeSort.1 sorted)
    obtain ⟨signal, name⟩ := signal_of_accepted checked member
    have whole : (signal.name : Text).isWhole = true := Text.isWhole_ofString _
    rw [Function.comp_apply, Text.isWhole_append, Text.isWhole_append, same, name, whole,
      Text.isWhole_ofString, Text.isWhole_ofString]
    rfl

section

variable [FaithfulText R] {weights weights' accepted accepted' : Weights R}
variable {overrides others : List (Text × Json R)} {fingerprint : Text}

/-- Accepted overrides of one fingerprint change the same signals, and to the same weights. -/
theorem find?_of_fingerprint (checked : weights.withOverrides overrides = .ok accepted)
    (checked' : weights'.withOverrides others = .ok accepted')
    (made : Weights.fingerprint overrides = .ok fingerprint)
    (made' : Weights.fingerprint others = .ok fingerprint) (signal : Signal) :
    ((changes overrides).find? (·.1 = (signal.name : Text)) = none ∧
      (changes others).find? (·.1 = (signal.name : Text)) = none) ∨
    ∃ change change', (changes overrides).find? (·.1 = (signal.name : Text)) = some change ∧
      (changes others).find? (·.1 = (signal.name : Text)) = some change' ∧
      checkWeight signal change.2 = checkWeight signal change'.2 := by
  obtain ⟨numbers, rfl, named, found⟩ := fingerprint_ok made
  obtain ⟨numbers', same, named', found'⟩ := fingerprint_ok made'
  have texts := find?_of_fingerprintOf
    (fun number member => by
      obtain ⟨change, inside, same⟩ := named number member
      rw [same]
      exact signal_of_accepted checked inside)
    (fun number member => by
      obtain ⟨change, inside, same⟩ := named' number member
      rw [same]
      exact signal_of_accepted checked' inside) same signal.name
  replace found := found signal.name
  replace found' := found' signal.name
  -- Both change the signal or neither does, since the numbers of one fingerprint have one text.
  cases first : (changes overrides).find? (·.1 = (signal.name : Text)) with
  | none =>
    left
    rw [first, Option.map_none, Option.map_eq_none_iff] at found
    rw [found, Option.map_none, eq_comm, Option.map_eq_none_iff] at texts
    rw [texts, Option.map_none, eq_comm, Option.map_eq_none_iff] at found'
    exact ⟨rfl, found'⟩
  | some change =>
    right
    rw [first, Option.map_some, Option.map_eq_some_iff] at found
    obtain ⟨number, number_found, real⟩ := found
    rw [number_found, Option.map_some, eq_comm, Option.map_eq_some_iff] at texts
    obtain ⟨number', number_found', text⟩ := texts
    rw [number_found', Option.map_some, eq_comm, Option.map_eq_some_iff] at found'
    obtain ⟨change', second, real'⟩ := found'
    obtain ⟨x, fits⟩ := checkWeight_of_accepted checked first
    obtain ⟨x', fits'⟩ := checkWeight_of_accepted checked' second
    obtain ⟨value, finite⟩ := toReal_of_checkWeight fits
    obtain ⟨value', finite'⟩ := toReal_of_checkWeight fits'
    rw [← real] at value
    rw [real'] at value'
    cases value
    cases value'
    refine ⟨change, change', rfl, second, ?_⟩
    rw [fits, fits', FaithfulText.text_inj _ _ finite' finite text]

/-- Accepted overrides of one fingerprint give the same weights, whatever weights they are put
over. -/
theorem withOverrides_congr (checked : weights.withOverrides overrides = .ok accepted)
    (checked' : weights'.withOverrides others = .ok accepted')
    (made : Weights.fingerprint overrides = .ok fingerprint)
    (made' : Weights.fingerprint others = .ok fingerprint) (w : Weights R) :
    w.withOverrides overrides = w.withOverrides others := by
  have signals := find?_of_fingerprint checked checked' made made'
  -- Without changes the weights are not checked at all, so this case is apart.
  by_cases nothing : changes overrides = []
  · have nothing' := isEmpty_of_accepted checked' fun signal => by
      rcases signals signal with missing | ⟨change, _, first, _⟩
      · exact missing.2
      · rw [nothing] at first
        cases first
    rw [withOverrides, withOverrides, nothing, nothing']
  · have nothing' : changes others ≠ [] := by
      intro empty
      refine nothing (isEmpty_of_accepted checked fun signal => ?_)
      rcases signals signal with missing | ⟨_, change', _, second, _⟩
      · exact missing.1
      · rw [empty] at second
        cases second
    rw [withOverrides, withOverrides, if_neg (by simpa using nothing),
      if_neg (by simpa using nothing'), replace, replace, known_of_accepted checked,
      known_of_accepted checked', if_neg Bool.false_ne_true, if_neg Bool.false_ne_true]
    refine congrArg (Except.mapError _) (check_congr fun signal => ?_)
    rcases signals signal with ⟨first, second⟩ | ⟨change, change', first, second, same⟩
    · rw [Json.find?, Json.find?, first, second]
    · rw [Json.find?, Json.find?, first, second]
      exact same

end

end Weights

end PersonalFeed
