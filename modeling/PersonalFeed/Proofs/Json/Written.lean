import PersonalFeed.Proofs.Json.Tokens

/-!
Written values are read back. Whatever blanks stand behind the commas and colons of a text, the
reader comes to the value that was written, as long as its names differ, its characters are whole,
its numbers are read from their own texts, and it is not nested too deep.
-/

set_option autoImplicit false

namespace PersonalFeed.Json

variable {R : Type} [Numeral R]

mutual

def spelled (gap : List Char) : Json R → List Char
  | .null => "null".toList
  | .bool true => "true".toList
  | .bool false => "false".toList
  | .int n => (toString n).toList
  | .real x => (writeReal x).toList
  | .string text => spelledText text
  | .array items => '[' :: ((',' :: gap).intercalate (spelledItems gap items) ++ [']'])
  | .object fields => '\x7b' :: ((',' :: gap).intercalate (spelledFields gap fields) ++ ['\x7d'])

def spelledItems (gap : List Char) : List (Json R) → List (List Char)
  | [] => []
  | item :: rest => spelled gap item :: spelledItems gap rest

def spelledFields (gap : List Char) : List (Text × Json R) → List (List Char)
  | [] => []
  | (name, value) :: rest =>
    (spelledText name ++ ':' :: (gap ++ spelled gap value)) :: spelledFields gap rest

end

mutual

theorem toList_write : (value : Json R) → (write value).toList = spelled [] value
  | .null | .bool true | .bool false | .int _ | .real _ => rfl
  | .string text => String.toList_ofList
  | .array items => by
    simp only [write, spelled, String.toList_append, String.toList_intercalate,
      toList_writeItems items]
    rfl
  | .object fields => by
    simp only [write, spelled, String.toList_append, String.toList_intercalate,
      toList_writeFields fields]
    rfl

theorem toList_writeItems :
    (items : List (Json R)) → (writeItems items).map String.toList = spelledItems [] items
  | [] => rfl
  | item :: rest => by
    rw [writeItems, List.map_cons, toList_write item, toList_writeItems rest, spelledItems]

theorem toList_writeFields : (fields : List (Text × Json R)) →
    (writeFields fields).map String.toList = spelledFields [] fields
  | [] => rfl
  | (name, value) :: rest => by
    rw [writeFields, List.map_cons, toList_writeFields rest, spelledFields, String.toList_append,
      String.toList_append, toList_write value]
    simp [writeText, spelledText]

end

section

variable {c : Char} (digit : c.isDigit = true)

include digit

theorem readValue_digit (fuel depth : Nat) (text : List Char) :
    (readValue (fuel + 1) depth (c :: text) : Except ReadError (Json R × List Char)) =
      readNumber false (c :: text) := by
  rw [readValue] <;> rintro _ ⟨⟩ <;> cases digit

theorem readValue_minus (fuel depth : Nat) (text : List Char) :
    (readValue (fuel + 1) depth ('-' :: c :: text) : Except ReadError (Json R × List Char)) =
      readNumber true (c :: text) := by
  rw [readValue]
  rintro _ ⟨⟩
  cases digit

end

theorem readValue_signed {negative : Bool} {body rest : List Char} {value : Json R}
    (read : readNumber negative body = .ok (value, [])) (ends : Ends rest) (fuel depth : Nat) :
    readValue (fuel + 1) depth ((if negative then '-' :: body else body) ++ rest) =
      .ok (value, rest) := by
  have read' := readNumber_append ends read
  obtain ⟨c, tail, rfl, digit⟩ := digit_of_readNumber read
  cases negative with
  | true => exact (readValue_minus digit fuel depth (tail ++ rest)).trans read'
  | false => exact (readValue_digit digit fuel depth (tail ++ rest)).trans read'

/-- A value that can be read back out of its text: with names that differ, whole texts, numbers that
are read from their own texts, and no more than some lists and records around any part. -/
inductive IsWritable : Nat → Json R → Prop
  | null (depth : Nat) : IsWritable depth .null
  | bool (depth : Nat) (value : Bool) : IsWritable depth (.bool value)
  | int (depth : Nat) {n : Int} (short : (Nat.toDigits 10 n.natAbs).length ≤ digitLimit) :
    IsWritable depth (.int n)
  | real (depth : Nat) {x : R} (writable : IsWritableNumber x) : IsWritable depth (.real x)
  | string (depth : Nat) {text : Text} (whole : text.isWhole = true) :
    IsWritable depth (.string text)
  | array {depth : Nat} {items : List (Json R)} (each : ∀ item ∈ items, IsWritable depth item) :
    IsWritable (depth + 1) (.array items)
  | object {depth : Nat} {fields : List (Text × Json R)}
    (distinct : (fields.map Prod.fst).Nodup) (names : ∀ field ∈ fields, field.1.isWhole = true)
    (each : ∀ field ∈ fields, IsWritable depth field.2) : IsWritable (depth + 1) (.object fields)

theorem toList_toString (n : Int) :
    (toString n).toList =
      if n < 0 then '-' :: Nat.toDigits 10 n.natAbs else Nat.toDigits 10 n.natAbs := by
  cases n with
  | ofNat n => exact Nat.toList_repr
  | negSucc n =>
    rw [toList_toString_negSucc, Nat.toList_repr, if_pos (Int.negSucc_lt_zero n)]
    rfl

theorem signed_natAbs (n : Int) : signed (decide (n < 0)) n.natAbs = n := by
  unfold signed
  rcases Int.lt_or_le n 0 with below | above
  · rw [decide_eq_true below, if_pos rfl, Int.ofNat_natAbs_of_nonpos (Int.le_of_lt below),
      Int.neg_neg]
  · rw [decide_eq_false (Int.not_lt.mpr above), if_neg Bool.false_ne_true,
      Int.natAbs_of_nonneg above]

/-- A written value starts with a character that is neither a blank nor a closing bracket. -/
theorem head_spelled {depth : Nat} {value : Json R} (writable : value.IsWritable depth)
    (gap : List Char) :
    ∃ c tail, spelled gap value = c :: tail ∧ isSpace c = false ∧ c ≠ ']' := by
  -- A number starts with its sign or with a digit.
  have number {negative : Bool} {body : List Char} {value : Json R}
      (read : readNumber negative body = .ok (value, [])) :
      ∃ c tail, (if negative then '-' :: body else body) = c :: tail ∧ isSpace c = false ∧
        c ≠ ']' := by
    obtain ⟨c, tail, rfl, digit⟩ := digit_of_readNumber read
    cases negative with
    | true => exact ⟨'-', _, rfl, rfl, by decide⟩
    | false =>
      refine ⟨c, tail, rfl, ?_, ?_⟩
      · cases blank : isSpace c with
        | false => rfl
        | true =>
          simp only [isSpace, Bool.or_eq_true, beq_iff_eq] at blank
          rcases blank with ((rfl | rfl) | rfl) | rfl <;> cases digit
      · rintro rfl
        cases digit
  cases writable with
  | null => exact ⟨'n', _, rfl, rfl, by decide⟩
  | bool _ value =>
    cases value with
    | true => exact ⟨'t', _, rfl, rfl, by decide⟩
    | false => exact ⟨'f', _, rfl, rfl, by decide⟩
  | @int _ n short =>
    have read := readNumber_toDigits (R := R) (decide (n < 0)) short
    rw [spelled, toList_toString]
    simpa using number read
  | real _ writable =>
    obtain ⟨negative, body, written, read⟩ := writable
    rw [spelled, written]
    exact number read
  | string => exact ⟨'"', _, rfl, rfl, by decide⟩
  | array => exact ⟨'[', _, by rw [spelled], rfl, by decide⟩
  | object => exact ⟨'\x7b', _, by rw [spelled], rfl, by decide⟩

theorem skipSpace_of_head {c : Char} (plain : isSpace c = false) (text : List Char) :
    skipSpace (c :: text) = c :: text := by
  rw [skipSpace, List.dropWhile_cons_of_neg (by simp [plain])]

theorem skipSpace_blanks {gap : List Char} (blank : ∀ c ∈ gap, isSpace c = true)
    (text : List Char) : skipSpace (gap ++ text) = skipSpace text := by
  rw [skipSpace, List.dropWhile_append_of_pos blank]
  rfl

/-! ### Values -/

def ReadsBack (gap : List Char) (depth : Nat) (value : Json R) : Prop :=
  ∀ fuel rest, 2 * (spelled gap value).length ≤ fuel → Ends rest →
    readValue fuel depth (spelled gap value ++ rest) = .ok (value, rest)

section

variable {gap : List Char} {depth : Nat}

theorem head_spelledItems (gap : List Char) {items : List (Json R)} (present : items ≠ [])
    (writable : ∀ item ∈ items, item.IsWritable depth) :
    ∃ c tail, (',' :: gap).intercalate (spelledItems gap items) = c :: tail ∧
      isSpace c = false ∧ c ≠ ']' := by
  cases items with
  | nil => exact absurd rfl present
  | cons item later =>
    obtain ⟨c, tail, starts, plain, inside⟩ := head_spelled (writable item List.mem_cons_self) gap
    cases later with
    | nil =>
      rw [spelledItems, spelledItems, List.intercalate_singleton]
      exact ⟨c, tail, starts, plain, inside⟩
    | cons next later =>
      rw [spelledItems, spelledItems, List.intercalate_cons_cons, starts]
      exact ⟨c, _, rfl, plain, inside⟩

theorem head_spelledFields (gap : List Char) (field : Text × Json R)
    (later : List (Text × Json R)) :
    ∃ tail, (',' :: gap).intercalate (spelledFields gap (field :: later)) = '"' :: tail := by
  cases later with
  | nil =>
    rw [spelledFields, spelledFields, List.intercalate_singleton]
    exact ⟨_, rfl⟩
  | cons next later =>
    rw [spelledFields, spelledFields, List.intercalate_cons_cons]
    exact ⟨_, rfl⟩

variable (blank : ∀ c ∈ gap, isSpace c = true)

include blank

-- The reader spends one step on every item and passes the fuel that is left to its value. Twice the
-- length of the text covers both, because every item is followed by a character that is not its own.

/-- Items are read one after another, each down to the comma or bracket behind it. -/
theorem readItems_spelled {items : List (Json R)} (present : items ≠ [])
    (writable : ∀ item ∈ items, item.IsWritable depth)
    (each : ∀ item ∈ items, ReadsBack gap depth item) (fuel : Nat) (rest : List Char)
    (enough : 2 * ((',' :: gap).intercalate (spelledItems gap items)).length + 1 ≤ fuel) :
    readItems fuel depth ((',' :: gap).intercalate (spelledItems gap items) ++ ']' :: rest) =
      .ok (items, rest) := by
  induction items generalizing fuel with
  | nil => exact absurd rfl present
  | cons item later ih =>
    obtain ⟨fuel, rfl⟩ : ∃ less, fuel = less + 1 := ⟨fuel - 1, by omega⟩
    have first := each item List.mem_cons_self
    cases later with
    | nil =>
      rw [spelledItems, spelledItems, List.intercalate_singleton] at enough ⊢
      rw [readItems, first fuel _ (by omega) (ends_array rest)]
      rfl
    | cons next later =>
      have writable' := fun other member => writable other (List.mem_cons_of_mem item member)
      have others := ih (List.cons_ne_nil _ _) writable'
        fun other member => each other (List.mem_cons_of_mem _ member)
      obtain ⟨c, tail, starts, plain, -⟩ :=
        head_spelledItems gap (List.cons_ne_nil next later) writable'
      -- The written items are the first one, a comma and the others, and what is left of the fuel
      -- is enough for these.
      have parts : (',' :: gap).intercalate (spelledItems gap (item :: next :: later)) =
          spelled gap item ++ ',' :: (gap ++
            (',' :: gap).intercalate (spelledItems gap (next :: later))) := by
        rw [spelledItems, spelledItems, List.intercalate_cons_cons, List.append_assoc]
        rfl
      rw [parts] at enough ⊢
      simp only [List.length_append, List.length_cons] at enough
      rw [List.append_assoc, List.cons_append, readItems, first fuel _ (by omega) (ends_comma _)]
      have spaced : skipSpace (gap ++ (',' :: gap).intercalate (spelledItems gap (next :: later)) ++
          ']' :: rest) =
            (',' :: gap).intercalate (spelledItems gap (next :: later)) ++ ']' :: rest := by
        rw [List.append_assoc, skipSpace_blanks blank, starts]
        exact skipSpace_of_head plain _
      change (readItems fuel depth (skipSpace _) >>= _) = _
      rw [spaced, others fuel (by omega)]
      rfl

theorem readFields_field {name : Text} {value : Json R} (named : name.isWhole = true)
    (writable : value.IsWritable depth) (back : ReadsBack gap depth value) {fuel : Nat}
    {after : List Char} (enough : 2 * (spelled gap value).length ≤ fuel) (ends : Ends after) :
    readFields (fuel + 1) depth
        (spelledText name ++ ':' :: (gap ++ spelled gap value) ++ after) =
      match skipSpace after with
      | '\x7d' :: rest => .ok ([(name, value)], rest)
      | ',' :: rest => do
        let (fields, rest) ← readFields fuel depth (skipSpace rest)
        return ((name, value) :: fields, rest)
      | _ => .error .malformed := by
  obtain ⟨units, read, same⟩ :=
    readCodes_spelledText named (':' :: (gap ++ spelled gap value ++ after))
  obtain ⟨c, tail, starts, plain, -⟩ := head_spelled writable gap
  -- The gap behind the colon is passed over, and the value starts with no blank itself.
  have spaced : skipSpace (gap ++ spelled gap value ++ after) = spelled gap value ++ after := by
    rw [List.append_assoc, skipSpace_blanks blank, starts]
    exact skipSpace_of_head plain _
  have text : spelledText name ++ ':' :: (gap ++ spelled gap value) ++ after =
      '"' :: (name.codes.flatMap writeCode ++
        '"' :: ':' :: (gap ++ spelled gap value ++ after)) := by
    simp [spelledText]
  rw [text, readFields, read]
  dsimp only
  rw [skipSpace_of_head rfl, same]
  change (readValue fuel depth (skipSpace _) >>= _) = _
  rw [spaced, back fuel after enough ends]
  rfl

/-- Fields are read one after another, each down to the comma or bracket behind it. -/
theorem readFields_spelled {fields : List (Text × Json R)} (present : fields ≠ [])
    (names : ∀ field ∈ fields, field.1.isWhole = true)
    (writable : ∀ field ∈ fields, field.2.IsWritable depth)
    (each : ∀ field ∈ fields, ReadsBack gap depth field.2) (fuel : Nat) (rest : List Char)
    (enough : 2 * ((',' :: gap).intercalate (spelledFields gap fields)).length + 1 ≤ fuel) :
    readFields fuel depth
        ((',' :: gap).intercalate (spelledFields gap fields) ++ '\x7d' :: rest) =
      .ok (fields, rest) := by
  induction fields generalizing fuel with
  | nil => exact absurd rfl present
  | cons field later ih =>
    obtain ⟨fuel, rfl⟩ : ∃ less, fuel = less + 1 := ⟨fuel - 1, by omega⟩
    obtain ⟨name, value⟩ := field
    have named : name.isWhole = true := names _ List.mem_cons_self
    have clear : value.IsWritable depth := writable _ List.mem_cons_self
    have back : ReadsBack gap depth value := each _ List.mem_cons_self
    cases later with
    | nil =>
      rw [spelledFields, spelledFields, List.intercalate_singleton] at enough ⊢
      simp only [List.length_append, List.length_cons] at enough
      rw [readFields_field blank named clear back (by omega) (ends_object rest)]
      rfl
    | cons next later =>
      have others := ih (List.cons_ne_nil _ _)
        (fun other member => names other (List.mem_cons_of_mem _ member))
        (fun other member => writable other (List.mem_cons_of_mem _ member))
        fun other member => each other (List.mem_cons_of_mem _ member)
      have parts : (',' :: gap).intercalate (spelledFields gap ((name, value) :: next :: later)) =
          (spelledText name ++ ':' :: (gap ++ spelled gap value)) ++ ',' :: (gap ++
            (',' :: gap).intercalate (spelledFields gap (next :: later))) := by
        rw [spelledFields, spelledFields, List.intercalate_cons_cons, List.append_assoc]
        rfl
      rw [parts] at enough ⊢
      simp only [List.length_append, List.length_cons] at enough
      rw [List.append_assoc, List.cons_append,
        readFields_field blank named clear back (by omega) (ends_comma _)]
      have spaced : skipSpace (gap ++
          (',' :: gap).intercalate (spelledFields gap (next :: later)) ++ '\x7d' :: rest) =
            (',' :: gap).intercalate (spelledFields gap (next :: later)) ++ '\x7d' :: rest := by
        obtain ⟨tail, starts⟩ := head_spelledFields gap next later
        rw [List.append_assoc, skipSpace_blanks blank, starts]
        exact skipSpace_of_head rfl _
      change (readFields fuel depth (skipSpace _) >>= _) = _
      rw [spaced, others fuel (by omega)]
      rfl

end

omit [Numeral R] in
theorem put_of_absent {name : Text} (value : Json R) {fields : List (Text × Json R)}
    (absent : name ∉ fields.map Prod.fst) : put name value fields = fields ++ [(name, value)] := by
  induction fields with
  | nil => rfl
  | cons head rest ih =>
    rw [List.map_cons, List.mem_cons, not_or] at absent
    rw [put, if_neg (Ne.symm absent.1), ih absent.2]
    rfl

omit [Numeral R] in
theorem merge_of_nodup {fields : List (Text × Json R)} (distinct : (fields.map Prod.fst).Nodup) :
    merge fields = fields := by
  have goesOn (done later : List (Text × Json R))
      (distinct : ((done ++ later).map Prod.fst).Nodup) :
      later.foldl (fun done field => put field.1 field.2 done) done = done ++ later := by
    induction later generalizing done with
    | nil => exact (List.append_nil done).symm
    | cons field later ih =>
      have absent : field.1 ∉ done.map Prod.fst := by
        rw [List.map_append, List.map_cons] at distinct
        exact fun member => (List.nodup_append.1 distinct).2.2 _ member _ List.mem_cons_self rfl
      rw [List.foldl_cons, put_of_absent _ absent, ih _ (by simpa using distinct)]
      simp
  exact goesOn [] fields distinct

theorem readsBack_of_step {gap : List Char} {depth : Nat} {value : Json R}
    (writable : value.IsWritable depth)
    (read : ∀ fuel rest, 2 * (spelled gap value).length ≤ fuel + 1 → Ends rest →
      readValue (fuel + 1) depth (spelled gap value ++ rest) = .ok (value, rest)) :
    ReadsBack gap depth value := by
  intro fuel rest enough ends
  obtain ⟨c, tail, starts, -⟩ := head_spelled writable gap
  have long := congrArg List.length starts
  rw [List.length_cons] at long
  obtain ⟨fuel, rfl⟩ : ∃ less, fuel = less + 1 := ⟨fuel - 1, by omega⟩
  exact read fuel rest enough ends

theorem readsBack_array {gap : List Char} (blank : ∀ c ∈ gap, isSpace c = true) {depth : Nat}
    {items : List (Json R)} (writable : ∀ item ∈ items, item.IsWritable depth)
    (each : ∀ item ∈ items, ReadsBack gap depth item) :
    ReadsBack gap (depth + 1) (.array items) := by
  refine readsBack_of_step (.array writable) fun fuel rest enough _ => ?_
  have listed : spelled gap (.array items) ++ rest =
      '[' :: ((',' :: gap).intercalate (spelledItems gap items) ++ ']' :: rest) := by
    simp [spelled]
  rw [spelled, List.length_cons, List.length_append] at enough
  rw [listed, readValue, if_neg (Nat.succ_ne_zero depth)]
  cases items with
  | nil => rfl
  | cons item later =>
    have present := List.cons_ne_nil item later
    have read := readItems_spelled blank present writable each fuel rest (by simp at enough; omega)
    -- What follows the bracket is no closing one, so the reader goes on to the items.
    obtain ⟨c, tail, starts, plain, inside⟩ := head_spelledItems gap present writable
    rw [starts] at read ⊢
    rw [List.cons_append] at read ⊢
    rw [skipSpace_of_head plain]
    split
    · rename_i closed
      exact absurd (List.cons.inj closed).1 inside
    · rw [Nat.add_sub_cancel, read]
      rfl

/-- A record of distinct names is read back if the values of its fields are, with one level less. -/
theorem readsBack_object {gap : List Char} (blank : ∀ c ∈ gap, isSpace c = true) {depth : Nat}
    {fields : List (Text × Json R)} (distinct : (fields.map Prod.fst).Nodup)
    (names : ∀ field ∈ fields, field.1.isWhole = true)
    (writable : ∀ field ∈ fields, field.2.IsWritable depth)
    (each : ∀ field ∈ fields, ReadsBack gap depth field.2) :
    ReadsBack gap (depth + 1) (.object fields) := by
  refine readsBack_of_step (.object distinct names writable) fun fuel rest enough _ => ?_
  have listed : spelled gap (.object fields) ++ rest =
      '\x7b' :: ((',' :: gap).intercalate (spelledFields gap fields) ++ '\x7d' :: rest) := by
    simp [spelled]
  rw [spelled, List.length_cons, List.length_append] at enough
  rw [listed, readValue, if_neg (Nat.succ_ne_zero depth)]
  cases fields with
  | nil => rfl
  | cons field later =>
    have read := readFields_spelled blank (List.cons_ne_nil field later) names writable each fuel
      rest (by simp at enough; omega)
    obtain ⟨tail, starts⟩ := head_spelledFields gap field later
    rw [starts, List.cons_append] at read ⊢
    rw [skipSpace_of_head rfl, Nat.add_sub_cancel]
    change (readFields fuel depth _ >>= _) = _
    rw [read]
    change Except.ok (Json.object (merge (field :: later)), rest) = _
    rw [merge_of_nodup distinct]

/-- A writable value is read back out of its text, whatever ends the text. -/
theorem readsBack_of_isWritable {gap : List Char} (blank : ∀ c ∈ gap, isSpace c = true)
    {depth : Nat} {value : Json R} (writable : value.IsWritable depth) :
    ReadsBack gap depth value := by
  -- The levels that are left fall with every list and record, as they do in the reader.
  induction writable with
  | null depth =>
    refine readsBack_of_step (.null depth) fun fuel rest _ _ => ?_
    rw [spelled]
    rfl
  | bool depth value =>
    refine readsBack_of_step (.bool depth value) fun fuel rest _ _ => ?_
    cases value <;> rw [spelled] <;> rfl
  | @int depth n short =>
    refine readsBack_of_step (.int depth short) fun fuel rest _ ends => ?_
    have read := readNumber_toDigits (R := R) (decide (n < 0)) short
    rw [signed_natAbs] at read
    rw [spelled, toList_toString]
    simpa using readValue_signed read ends fuel depth
  | real depth writable =>
    refine readsBack_of_step (.real depth writable) fun fuel rest _ ends => ?_
    obtain ⟨negative, body, written, read⟩ := writable
    rw [spelled, written]
    exact readValue_signed read ends fuel depth
  | @string depth text whole =>
    refine readsBack_of_step (.string depth whole) fun fuel rest _ _ => ?_
    obtain ⟨units, read, same⟩ := readCodes_spelledText whole rest
    have quoted : spelled gap (.string text : Json R) ++ rest =
        '"' :: (text.codes.flatMap writeCode ++ '"' :: rest) := by
      simp [spelled, spelledText]
    rw [quoted, readValue, read]
    dsimp only
    rw [same]
  | array each ih => exact readsBack_array blank each ih
  | object distinct names each ih => exact readsBack_object blank distinct names each ih

theorem parse_spelled {gap : List Char} (blank : ∀ c ∈ gap, isSpace c = true) {value : Json R}
    (writable : value.IsWritable depthLimit) : parse (spelled gap value) = .ok value := by
  obtain ⟨c, tail, starts, plain, -⟩ := head_spelled writable gap
  have read := readsBack_of_isWritable blank writable (2 * (spelled gap value).length + 2) []
    (by omega) ends_nil
  have spaced : skipSpace (spelled gap value) = spelled gap value := by
    rw [starts]
    exact skipSpace_of_head plain tail
  rw [List.append_nil] at read
  rw [parse, spaced, read]
  rfl

end PersonalFeed.Json
