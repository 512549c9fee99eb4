import PersonalFeed.Time.Date

/-!
The date with a number has that number. Counting off cycles of years finds the year, and counting
off months the month, with the days that are left.
-/

set_option autoImplicit false

namespace PersonalFeed.Time.Date

theorem daysBeforeMonth_succ (year : Nat) {month : Nat} (some : 1 ≤ month) :
    daysBeforeMonth year (month + 1) = daysBeforeMonth year month + daysInMonth year month := by
  obtain ⟨before, rfl⟩ : ∃ before, month = before + 1 := ⟨month - 1, by omega⟩
  rfl

theorem daysBeforeMonth_end (year : Nat) :
    daysBeforeMonth year 13 = if isLeap year then 366 else 365 := by
  cases leap : isLeap year <;> simp [daysBeforeMonth, daysInMonth, leap]

theorem monthOfDay_spec (year fuel month day : Nat) (some : 1 ≤ month)
    (inside : daysBeforeMonth year month + day < daysBeforeMonth year (month + fuel + 1)) :
    month ≤ (monthOfDay year fuel month day).1 ∧
      (monthOfDay year fuel month day).1 ≤ month + fuel ∧
      (monthOfDay year fuel month day).2 < daysInMonth year (monthOfDay year fuel month day).1 ∧
      daysBeforeMonth year (monthOfDay year fuel month day).1 +
        (monthOfDay year fuel month day).2 = daysBeforeMonth year month + day := by
  induction fuel generalizing month day with
  | zero =>
    rw [Nat.add_zero, daysBeforeMonth_succ year some] at inside
    exact ⟨Nat.le_refl _, Nat.le_refl _, by simp only [monthOfDay]; omega, rfl⟩
  | succ fuel ih =>
    rw [monthOfDay]
    split
    · rename_i fits
      exact ⟨Nat.le_refl _, by omega, fits, rfl⟩
    -- The days of this month are taken off, and as many months are left as the fuel has.
    · have next := daysBeforeMonth_succ year some
      have more : month + (fuel + 1) + 1 = month + 1 + fuel + 1 := by omega
      rw [more] at inside
      obtain ⟨first, last, fits, sum⟩ := ih (month + 1) (day - daysInMonth year month) (by omega)
        (by omega)
      exact ⟨by omega, by omega, fits, by omega⟩

/-- Years counted off in cycles: whole years, and a day of the one that is left. -/
structure YearCount where
  cycles : Nat
  centuries : Nat
  fours : Nat
  years : Nat
  day : Nat

def countYears (n : Nat) : YearCount :=
  let (cycles, n) := (n / 146097, n % 146097)
  let (centuries, n) := (min 3 (n / 36524), n - min 3 (n / 36524) * 36524)
  let (fours, n) := (n / 1461, n % 1461)
  let (years, n) := (min 3 (n / 365), n - min 3 (n / 365) * 365)
  ⟨cycles, centuries, fours, years, n⟩

def YearCount.year (count : YearCount) : Nat :=
  count.cycles * 400 + count.centuries * 100 + count.fours * 4 + count.years + 1

theorem ofNumber_eq (n : Nat) :
    ofNumber n =
      ⟨(countYears n).year, (monthOfDay (countYears n).year 11 1 (countYears n).day).1,
        (monthOfDay (countYears n).year 11 1 (countYears n).day).2 + 1⟩ := rfl

theorem countYears_spec (n : Nat) :
    (countYears n).centuries ≤ 3 ∧ (countYears n).fours ≤ 24 ∧ (countYears n).years ≤ 3 ∧
      n = (countYears n).cycles * 146097 + (countYears n).centuries * 36524 +
        (countYears n).fours * 1461 + (countYears n).years * 365 + (countYears n).day := by
  simp only [countYears]
  omega

theorem daysBeforeYear_year {count : YearCount} (centuries : count.centuries ≤ 3)
    (fours : count.fours ≤ 24) (years : count.years ≤ 3) :
    daysBeforeYear count.year = count.cycles * 146097 + count.centuries * 36524 +
      count.fours * 1461 + count.years * 365 := by
  simp only [daysBeforeYear, YearCount.year]
  omega

theorem countYears_day (n : Nat) :
    (countYears n).day < if isLeap (countYears n).year then 366 else 365 := by
  obtain ⟨centuries, fours, years, sum⟩ := countYears_spec n
  -- A day beyond the 365th is left by a year that ends a cycle of four, and then only by one that
  -- ends no century or a cycle of 400 years.
  have short : (countYears n).day ≤ 365 := by
    simp only [countYears]
    omega
  by_cases last : (countYears n).day = 365
  · have ends : (countYears n).years = 3 ∧
        ((countYears n).fours = 24 → (countYears n).centuries = 3) := by
      simp only [countYears] at last ⊢
      omega
    have leap : isLeap (countYears n).year = true := by
      simp only [isLeap, YearCount.year, Bool.and_eq_true, Bool.or_eq_true, beq_iff_eq, bne_iff_ne]
      omega
    rw [leap, if_pos rfl]
    omega
  · split <;> omega

theorem countYears_year_le {n : Nat} (inside : n < calendarDays) : (countYears n).year ≤ 9999 := by
  have whole : calendarDays = 3652059 := by decide
  rw [whole] at inside
  simp only [countYears, YearCount.year]
  omega

theorem ofNumber_month (n : Nat) :
    1 ≤ (ofNumber n).month ∧ (ofNumber n).month ≤ 12 ∧ 1 ≤ (ofNumber n).day ∧
      (ofNumber n).day ≤ daysInMonth (ofNumber n).year (ofNumber n).month ∧
      daysBeforeMonth (ofNumber n).year (ofNumber n).month + (ofNumber n).day =
        (countYears n).day + 1 := by
  have inside : daysBeforeMonth (countYears n).year 1 + (countYears n).day <
      daysBeforeMonth (countYears n).year (1 + 11 + 1) := by
    have day := countYears_day n
    rw [daysBeforeMonth_end]
    simpa [daysBeforeMonth] using day
  obtain ⟨first, last, fits, sum⟩ := monthOfDay_spec _ 11 1 _ (Nat.le_refl _) inside
  have start : daysBeforeMonth (countYears n).year 1 = 0 := rfl
  rw [ofNumber_eq]
  dsimp only
  exact ⟨first, last, by omega, by omega, by omega⟩

theorem number_ofNumber (n : Nat) : (ofNumber n).number = n := by
  obtain ⟨-, -, some, -, sum⟩ := ofNumber_month n
  obtain ⟨centuries, fours, years, count⟩ := countYears_spec n
  have before := daysBeforeYear_year centuries fours years
  have year : (ofNumber n).year = (countYears n).year := rfl
  rw [number, year, before]
  rw [year] at sum
  omega

theorem isValid_ofNumber {n : Nat} (inside : n < calendarDays) : (ofNumber n).isValid = true := by
  obtain ⟨first, last, some, fits, -⟩ := ofNumber_month n
  have year : (ofNumber n).year ≤ 9999 := countYears_year_le inside
  have positive : 1 ≤ (ofNumber n).year := Nat.le_add_left _ _
  simp only [isValid, Bool.and_eq_true, decide_eq_true_eq]
  exact ⟨⟨⟨⟨⟨positive, year⟩, first⟩, last⟩, some⟩, fits⟩

end PersonalFeed.Time.Date
