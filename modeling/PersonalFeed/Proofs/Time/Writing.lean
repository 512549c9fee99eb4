import Mathlib.Algebra.Group.Nat.Defs
import PersonalFeed.Feed.Moment
import PersonalFeed.Proofs.Time.Dates
import PersonalFeed.Seen

/-!
Written moments are read back, by the reader of marks and by the reader of items. Both readers are
lenient, so it has to be said of a written text where each of them stops.
-/

set_option autoImplicit false

namespace PersonalFeed.Timestamp

section

variable {width n : Nat}

theorem digitsValue_padded : digitsValue (padded width n) = n := by
  have folded (digits : List Char) : digitsValue digits = Nat.ofDigitChars 10 digits 0 := by
    simp only [digitsValue, Nat.ofDigitChars, Nat.mul_comm 10]
  rw [folded, padded, Nat.ofDigitChars_append, Nat.ofDigitChars_replicate_zero, Nat.mul_zero,
    Nat.ofDigitChars_ten_toDigits]

theorem isDigit_of_mem_padded {c : Char} (member : c ∈ padded width n) : c.isDigit = true := by
  rcases List.mem_append.1 member with zero | digit
  · rw [List.eq_of_mem_replicate zero]
    rfl
  · exact Nat.isDigit_of_mem_toDigits (by decide) (by decide) digit

theorem length_padded (wide : 0 < width) (fits : n < 10 ^ width) :
    (padded width n).length = width := by
  have short := (Nat.length_toDigits_le_iff (b := 10) (by decide) wide).2 fits
  rw [padded, List.length_append, List.length_replicate]
  omega

theorem digits?_padded (wide : 0 < width) (fits : n < 10 ^ width) (rest : List Char) :
    digits? width (padded width n ++ rest) = some (n, rest) := by
  have length := length_padded wide fits
  have taken : (padded width n ++ rest).take width = padded width n := List.take_left' length
  have left : (padded width n ++ rest).drop width = rest := List.drop_left' length
  have digits : (padded width n).all Char.isDigit = true :=
    List.all_eq_true.2 fun c member => isDigit_of_mem_padded member
  simp only [digits?, taken, left, length, digits, digitsValue_padded, and_self, if_true]

end

/-- A clock as it is written: hours, minutes, seconds and a fraction, if there is one. -/
def clockPart (hour minute second micros : Nat) : List Char :=
  padded 2 hour ++ ':' :: (padded 2 minute ++ ':' :: (padded 2 second ++
    if micros = 0 then [] else '.' :: padded 6 micros))

def datePart (date : Time.Date) : List Char :=
  padded 4 date.year ++ '-' :: (padded 2 date.month ++ '-' :: padded 2 date.day)

theorem clockText_eq (clock : Int) :
    clockText clock =
      datePart (.ofNumber (clock / microsPerDay).toNat) ++ 'T' ::
        clockPart ((clock % microsPerDay).toNat / 1000000 / 3600)
          ((clock % microsPerDay).toNat / 1000000 / 60 % 60)
          ((clock % microsPerDay).toNat / 1000000 % 60)
          ((clock % microsPerDay).toNat % 1000000) := by
  simp only [clockText, datePart, clockPart, List.append_assoc, List.cons_append]

theorem clock_parts (clock : Int) :
    (clock % microsPerDay).toNat / 1000000 / 3600 < 24 ∧
      (clock % microsPerDay).toNat / 1000000 / 60 % 60 < 60 ∧
      (clock % microsPerDay).toNat / 1000000 % 60 < 60 ∧
      (clock % microsPerDay).toNat % 1000000 < 1000000 := by
  have short : clock % microsPerDay < microsPerDay := Int.emod_lt_of_pos _ (by decide)
  simp only [microsPerDay] at *
  omega

section

variable {hour minute second micros : Nat}

theorem clockPart_lacks {c : Char} (digit : c.isDigit = false) (colon : c ≠ ':') (point : c ≠ '.') :
    c ∉ clockPart hour minute second micros := by
  have absent (width n : Nat) : c ∉ padded width n := fun member => by
    rw [isDigit_of_mem_padded member] at digit
    cases digit
  unfold clockPart
  split <;> simp [absent, colon, point]

theorem padded_cons (width n : Nat) (rest : List Char) :
    ∃ c rest', padded width n ++ rest = c :: rest' ∧ c ≠ 'W' := by
  have some : padded width n ≠ [] := fun none =>
    Nat.toDigits_ne_nil (List.append_eq_nil_iff.1 none).2
  obtain ⟨c, more, written⟩ := List.exists_cons_of_ne_nil some
  have digit : c.isDigit = true := by
    refine @isDigit_of_mem_padded width n _ ?_
    rw [written]
    exact List.mem_cons_self
  refine ⟨c, more ++ rest, by rw [written, List.cons_append], ?_⟩
  rintro rfl
  cases digit

theorem readFraction_padded (fields : List Nat) (after : Char) (fits : micros < 1000000) :
    readFraction fields after (padded 6 micros) =
      some (.ofFields fields micros (after ≠ '\x00')) := by
  have digits := @digits?_padded 6 micros (by decide) fits []
  rw [List.append_nil] at digits
  have six : min 6 (padded 6 micros).length = 6 := by
    rw [length_padded (by decide) fits]
    rfl
  simp [readFraction, six, digits]

/-- Two digits and a colon are a field, and more fields follow with colons between them. -/
theorem readFields_padded {colons : Option Bool} (between : colons.getD true = true) {n : Nat}
    (fits : n < 100) (after : Char) (fields : List Nat) (count : Nat) (c : Char)
    (rest : List Char) :
    readFields after colons fields (count + 1) (padded 2 n ++ ':' :: c :: rest) =
      readFields after (some true) (fields ++ [n]) count (c :: rest) := by
  rw [readFields, digits?_padded (by decide) fits]
  simp [between]

theorem readClock_clockPart (hours : hour < 24) (minutes : minute < 60) (seconds : second < 60)
    (fits : micros < 1000000) (after : Char) :
    readClock after (clockPart hour minute second micros) =
      some ⟨hour, minute, second, micros, after ≠ '\x00'⟩ := by
  -- After two digits of seconds the reader is at the end or at the fraction.
  have last : readFields after (some true) [hour, minute] 1
      (padded 2 second ++ if micros = 0 then [] else '.' :: padded 6 micros) =
      some ⟨hour, minute, second, micros, after ≠ '\x00'⟩ := by
    rw [readFields, digits?_padded (by decide) (by omega)]
    by_cases whole : micros = 0
    · subst whole
      rfl
    · obtain ⟨c, rest, written, -⟩ := padded_cons 6 micros []
      rw [List.append_nil] at written
      have read := readFraction_padded ([hour, minute] ++ [second]) after fits
      rw [written] at read
      simpa [whole, written, ClockReading.ofFields] using read
  obtain ⟨c, rest, next, -⟩ := padded_cons 2 second
    (if micros = 0 then [] else '.' :: padded 6 micros)
  obtain ⟨c', rest', following, -⟩ := padded_cons 2 minute
    (':' :: (padded 2 second ++ if micros = 0 then [] else '.' :: padded 6 micros))
  rw [readClock, clockPart, following, readFields_padded rfl (by omega), ← following, next,
    readFields_padded rfl (by omega), ← next]
  exact last

end

section

variable {date : Time.Date}

theorem fields_of_isValid (valid : date.isValid = true) :
    (1 ≤ date.year ∧ date.year < 10000) ∧ (1 ≤ date.month ∧ date.month ≤ 12) ∧
      1 ≤ date.day ∧ date.day ≤ Time.Date.daysInMonth date.year date.month := by
  simp only [Time.Date.isValid, Bool.and_eq_true, decide_eq_true_eq] at valid
  obtain ⟨⟨⟨⟨⟨some, last⟩, first⟩, months⟩, day⟩, fits⟩ := valid
  exact ⟨⟨some, by omega⟩, ⟨first, months⟩, day, fits⟩

theorem daysInMonth_lt (year month : Nat) : Time.Date.daysInMonth year month < 100 := by
  unfold Time.Date.daysInMonth
  split
  · split <;> omega
  · split <;> omega

theorem length_datePart (valid : date.isValid = true) : (datePart date).length = 10 := by
  obtain ⟨⟨-, year⟩, ⟨-, month⟩, -, day⟩ := fields_of_isValid valid
  have short := daysInMonth_lt date.year date.month
  simp only [datePart, List.length_append, List.length_cons]
  rw [length_padded (by decide) year, length_padded (by decide) (by omega),
    length_padded (by decide) (by omega)]

theorem dateLength_datePart (valid : date.isValid = true) (rest : List Char) :
    dateLength (datePart date ++ rest) = 10 := by
  obtain ⟨⟨-, year⟩, -⟩ := fields_of_isValid valid
  obtain ⟨c, more, month, other⟩ := padded_cons 2 date.month ('-' :: (padded 2 date.day ++ rest))
  have after : (datePart date ++ rest).drop 4 = '-' :: c :: more := by
    simp only [datePart, List.append_assoc, List.cons_append]
    rw [List.drop_left' (length_padded (by decide) year), month]
  simp [dateLength, after, other]

theorem readDate_datePart (valid : date.isValid = true) : readDate (datePart date) = some date := by
  obtain ⟨⟨-, year⟩, ⟨-, month⟩, -, day⟩ := fields_of_isValid valid
  have short := daysInMonth_lt date.year date.month
  obtain ⟨c, more, months, other⟩ := padded_cons 2 date.month ('-' :: padded 2 date.day)
  have ended := @digits?_padded 2 date.day (by decide) (by omega) []
  rw [List.append_nil] at ended
  have months' := @digits?_padded 2 date.month (by decide) (by omega) ('-' :: padded 2 date.day)
  rw [months] at months'
  rw [readDate, datePart, digits?_padded (by decide) year, months]
  simp [firstOf, other, months', ended, valid]

end

theorem readTime_clockPart {hour minute second micros : Nat} (hours : hour < 24)
    (minutes : minute < 60) (seconds : second < 60) (fits : micros < 1000000) :
    readTime (clockPart hour minute second micros ++ zoneText 0) =
      some ((((hour * 3600 + minute * 60 + second) * 1000000 + micros : Nat) : Int), some 0) := by
  have whole : zoneText 0 = '+' :: ['0', '0', ':', '0', '0'] := rfl
  have zone : readZone (zoneText 0) = some 0 := by decide
  -- No sign of a zone stands in the clock part, so the text is cut where the zone starts.
  have plain : ∀ c ∈ clockPart hour minute second micros, (!startsZone c) = true := by
    intro c member
    rw [Bool.not_eq_true', startsZone]
    simp only [Bool.or_eq_false_iff, beq_eq_false_iff_ne]
    refine ⟨⟨?_, ?_⟩, ?_⟩ <;> rintro rfl <;>
      exact clockPart_lacks (by decide) (by decide) (by decide) member
  have rest : (clockPart hour minute second micros ++ zoneText 0).dropWhile
      (fun c => !startsZone c) = zoneText 0 := by
    rw [List.dropWhile_append_of_pos plain]
    rfl
  have part : (clockPart hour minute second micros ++ zoneText 0).takeWhile
      (fun c => !startsZone c) = clockPart hour minute second micros := by
    rw [List.takeWhile_append_of_pos plain]
    simp [whole, startsZone]
  have valid (more : Bool) : (ClockReading.mk hour minute second micros more).isValid = true := by
    simp only [ClockReading.isValid, hours, minutes, seconds, decide_true, Bool.and_self]
  have some : (zoneText 0).isEmpty = false := by rw [whole]; rfl
  rw [readTime, rest, part, readClock_clockPart hours minutes seconds fits]
  simp only [Option.bind_eq_bind, Option.bind_some, valid, some, zone]
  rfl

theorem isValid_date {clock : Int} (inside : clock < Time.calendarDays * microsPerDay) :
    (Time.Date.ofNumber (clock / microsPerDay).toNat).isValid = true := by
  have before := Int.ediv_lt_of_lt_mul (by decide) inside
  exact Time.Date.isValid_ofNumber ((Int.toNat_lt' (by decide)).2 before)

theorem clock_sum {clock : Int} (start : 0 ≤ clock) :
    ((clock / microsPerDay).toNat : Int) * microsPerDay + (clock % microsPerDay).toNat =
      clock := by
  rw [Int.toNat_of_nonneg (Int.ediv_nonneg start (by decide)),
    Int.toNat_of_nonneg (Int.emod_nonneg _ (by decide))]
  exact Int.ediv_mul_add_emod clock microsPerDay

/-- A moment of the calendar is read back from its written form in universal time. -/
theorem parse?_clockText {clock : Int} (start : 0 ≤ clock)
    (inside : clock < Time.calendarDays * microsPerDay) :
    parse? (clockText clock ++ zoneText 0) = some (clock, some 0) := by
  obtain ⟨hours, minutes, seconds, micros⟩ := clock_parts clock
  have valid := isValid_date inside
  have length := length_datePart valid
  rw [clockText_eq, List.append_assoc, List.cons_append, parse?, dateLength_datePart valid]
  dsimp only
  rw [List.take_left' length, List.drop_left' length, readDate_datePart valid]
  simp only [Option.bind_eq_bind, Option.bind_some]
  rw [readTime_clockPart hours minutes seconds micros]
  simp only [Option.bind_some, Time.Date.number_ofNumber]
  have parts (n : Nat) : (n / 1000000 / 3600 * 3600 + n / 1000000 / 60 % 60 * 60 +
      n / 1000000 % 60) * 1000000 + n % 1000000 = n := by
    omega
  rw [parts, clock_sum start]

def IsStored (t : Timestamp) : Prop := t.offset = 0 ∧ t.inCalendar = true

theorem clock_of_isStored {t : Timestamp} (stored : t.IsStored) :
    0 ≤ t.clock ∧ t.clock < Time.calendarDays * microsPerDay := by
  have inside := stored.2
  simpa only [inCalendar, Bool.and_eq_true, decide_eq_true_eq] using inside

theorem ofClock_clock (t : Timestamp) : ofClock t.clock t.offset = t := by
  cases t
  simp only [ofClock, clock, Timestamp.mk.injEq, and_true]
  omega

theorem isStored_withoutZone {t : Timestamp} (inside : t.inCalendar = true) :
    t.withoutZone.IsStored := by
  refine ⟨rfl, ?_⟩
  rw [inCalendar, withoutZone, clock_ofClock]
  exact inside

theorem mendSeparator_ofChars (chars : List Char) :
    mendSeparator (.ofChars chars) = .ofChars chars := by
  have whole : [7, 8, 10].find? (fun place =>
      ((Text.ofChars chars).codes[place]?.any fun code => code.char?.isNone)) = none := by
    refine List.find?_eq_none.2 fun place _ => ?_
    cases read : chars[place]? <;> simp [Text.ofChars, read, Code.char?]
  rw [mendSeparator, whole]

theorem parseText?_isoText {t : Timestamp} (stored : t.IsStored) :
    parseText? (.ofString t.isoText) = some (t.clock, some 0) := by
  obtain ⟨start, inside⟩ := clock_of_isStored stored
  have date := length_datePart (isValid_date inside)
  have long : ¬ (Text.ofChars (clockText t.clock ++ zoneText 0)).length < 7 := by
    simp only [Text.length, Text.ofChars, List.length_map, clockText_eq, List.length_append, date]
    exact Nat.not_lt.2 (Nat.le_add_right_of_le (Nat.le_add_right_of_le (by decide)))
  have written : Text.ofString t.isoText = .ofChars (clockText t.clock ++ zoneText 0) := by
    rw [isoText, Text.ofString, String.toList_ofList, stored.1]
  rw [parseText?, written, if_neg long, mendSeparator_ofChars, Text.chars?_ofChars,
    Option.bind_some]
  exact parse?_clockText start inside

end PersonalFeed.Timestamp

namespace PersonalFeed

theorem SeenMap.momentOfJson_isoText {R : Type} {t : Timestamp} (stored : t.IsStored) :
    SeenMap.momentOfJson (.string (.ofString t.isoText) : Json R) = .ok (some t) := by
  have back := Timestamp.ofClock_clock t
  rw [stored.1] at back
  rw [momentOfJson, Timestamp.parseText?_isoText stored]
  simp [back]

namespace ItemMoment

open Timestamp

theorem readDate_datePart {date : Time.Date} (valid : date.isValid = true) (rest : List Char) :
    readDate (datePart date ++ rest) = some (date, rest) := by
  obtain ⟨⟨-, year⟩, ⟨first, month⟩, day, fits⟩ := fields_of_isValid valid
  have short := daysInMonth_lt date.year date.month
  have days := @digits?_padded 2 date.day (by decide) (by omega) rest
  have months := @digits?_padded 2 date.month (by decide) (by omega)
    ('-' :: (padded 2 date.day ++ rest))
  simp only [datePart, List.append_assoc, List.cons_append]
  rw [readDate, digits?_padded (by decide) year]
  simp [months, days, first, month, day, fits]

theorem readClock_clockPart {hour minute second micros : Nat} (hours : hour < 24)
    (minutes : minute < 60) (seconds : second < 60) (fits : micros < 1000000) :
    readClock (clockPart hour minute second micros ++ ['Z']) =
      some (((hour * 60 + minute) * 60 + second) * 1000000 + micros, ['Z']) := by
  have fraction : readFraction ((if micros = 0 then [] else '.' :: padded 6 micros) ++ ['Z']) =
      some (micros, ['Z']) := by
    by_cases whole : micros = 0
    · subst whole
      rfl
    · have digits : ∀ c ∈ padded 6 micros, c.isDigit = true := fun c => isDigit_of_mem_padded
      have length := @length_padded 6 micros (by decide) fits
      have some : padded 6 micros ≠ [] := fun none => by
        rw [none] at length
        cases length
      simp [readFraction, whole, List.takeWhile_append_of_pos digits,
        List.dropWhile_append_of_pos digits, List.take_left' length, digitsValue_padded, some]
  simp only [clockPart, List.append_assoc, List.cons_append]
  rw [readClock, digits?_padded (by decide) (by omega)]
  have next := @digits?_padded 2 minute (by decide) (by omega)
    (':' :: (padded 2 second ++ ((if micros = 0 then [] else '.' :: padded 6 micros) ++ ['Z'])))
  have last := @digits?_padded 2 second (by decide) (by omega)
    ((if micros = 0 then [] else '.' :: padded 6 micros) ++ ['Z'])
  have valid : hour < 24 ∧ minute < 60 ∧ second < 60 := ⟨hours, minutes, seconds⟩
  simp only [Option.bind_eq_bind, Option.bind_some, List.head?_cons, if_true, List.drop_one,
    List.tail_cons, next, last, fraction, if_pos valid]

theorem readFull_clockText {clock : Int} (start : 0 ≤ clock)
    (inside : clock < Time.calendarDays * microsPerDay) :
    readFull (clockText clock ++ ['Z']) = some ⟨clock, some 0⟩ := by
  obtain ⟨hours, minutes, seconds, micros⟩ := clock_parts clock
  have valid := isValid_date inside
  have year := (fields_of_isValid valid).1.1
  rw [clockText_eq, List.append_assoc, List.cons_append, readFull, readDate_datePart valid]
  simp only [Option.bind_eq_bind, Option.bind_some]
  rw [readClock_clockPart hours minutes seconds micros]
  have sign : ['T', 't', ' ', '_'].contains 'T' = true := rfl
  have zone : readZone ['Z'] = some (some 0) := rfl
  rw [if_pos sign]
  simp only [Option.bind_some, zone, clockOf, if_neg (Nat.ne_of_gt year), Time.Date.number_ofNumber]
  have parts (n : Nat) : ((n / 1000000 / 3600 * 60 + n / 1000000 / 60 % 60) * 60 +
      n / 1000000 % 60) * 1000000 + n % 1000000 = n := by
    omega
  rw [parts, clock_sum start]
  rfl

theorem read_text {R : Type} [Numeral R] {t : Timestamp} (stored : t.IsStored) :
    ItemMoment.read (.string (.ofString (ofTimestamp t).text) : Json R) =
      .valid (ofTimestamp t) := by
  obtain ⟨start, inside⟩ := clock_of_isStored stored
  have utc : ofTimestamp t = ⟨t.clock, some 0⟩ := by
    rw [ofTimestamp, stored.1]
    rfl
  have early : ¬ t.clock < 0 := Int.not_lt.2 start
  have zone : zoneText (some 0) = ['Z'] := rfl
  rw [utc, text, Text.ofString, String.toList_ofList, zone]
  simp only [read, Text.chars?_ofChars, ofChars]
  rw [readFull_clockText start inside]
  simp [early]

end ItemMoment

end PersonalFeed
