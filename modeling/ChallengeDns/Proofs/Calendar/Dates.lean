import Mathlib
import ChallengeDns.Calendar.Basic

/-!
# Days and dates

Counting days and finding the date of a day undo each other, and a later day has a later date.  So
the date of an instant is the one whose day the instant lies in.
-/
namespace ChallengeDns

/-! ### Years -/

theorem daysInYear_eq (year : Nat) :
    daysInYear year = if year % 4 = 0 ∧ (year % 100 ≠ 0 ∨ year % 400 = 0) then 366 else 365 := by
  simp [daysInYear, isLeapYear]

theorem daysBeforeYear_succ {year : Nat} (positive : 1 ≤ year) :
    Date.daysBeforeYear (year + 1) = Date.daysBeforeYear year + daysInYear year := by
  obtain ⟨n, rfl⟩ := Nat.exists_eq_add_of_le' positive
  -- Each quotient grows where its divisor divides the year, so the three count the leap days.
  have fours : (n + 1) % 100 = 0 → (n + 1) % 4 = 0 := by omega
  have centuries : (n + 1) % 400 = 0 → (n + 1) % 100 = 0 := by omega
  have less : n / 100 ≤ n / 4 := Nat.div_le_div_left (by decide) (by decide)
  rw [daysInYear_eq]
  simp only [Date.daysBeforeYear, Nat.add_sub_cancel, Nat.succ_div, Nat.dvd_iff_mod_eq_zero]
  split <;> split <;> split <;> split <;> omega

theorem daysBeforeYear_mono {earlier later : Nat} (positive : 1 ≤ earlier)
    (ordered : earlier ≤ later) : Date.daysBeforeYear earlier ≤ Date.daysBeforeYear later := by
  induction later, ordered using Nat.le_induction with
  | base => exact le_refl _
  | succ year above ih =>
    rw [daysBeforeYear_succ (positive.trans above)]
    exact ih.trans (Nat.le_add_right _ _)

/-- The year in which a day lies, and the days of that year before it. -/
theorem findYear_days {year : Nat} (positive : 1 ≤ year) (n : Nat) :
    let found := Date.findYear year n
    year ≤ found.1 ∧ found.2 < daysInYear found.1 ∧
      Date.daysBeforeYear found.1 + found.2 = Date.daysBeforeYear year + n := by
  induction year, n using Date.findYear.induct with
  | case1 year n inside =>
    rw [Date.findYear, if_pos inside]
    exact ⟨le_refl _, inside, rfl⟩
  | case2 year n beyond ih =>
    rw [Date.findYear, if_neg beyond]
    obtain ⟨above, inside, days⟩ := ih (by omega)
    rw [daysBeforeYear_succ positive] at days
    exact ⟨by omega, inside, by omega⟩

/-! ### Months -/

theorem daysBeforeMonth_succ {month : Nat} (positive : 1 ≤ month) (year : Nat) :
    Date.daysBeforeMonth year (month + 1) =
      Date.daysBeforeMonth year month + daysInMonth year month := by
  cases month with
  | zero => cases positive
  | succ month => rfl

/-- The months of a year make up the year. -/
theorem daysBeforeMonth_end (year : Nat) : Date.daysBeforeMonth year 13 = daysInYear year := by
  simp only [Date.daysBeforeMonth, daysInMonth, daysInYear]
  cases isLeapYear year <;> rfl

theorem daysBeforeMonth_mono (year : Nat) {earlier later : Nat} (positive : 1 ≤ earlier)
    (ordered : earlier ≤ later) :
    Date.daysBeforeMonth year earlier ≤ Date.daysBeforeMonth year later := by
  induction later, ordered using Nat.le_induction with
  | base => exact le_refl _
  | succ month above ih =>
    rw [daysBeforeMonth_succ (positive.trans above)]
    exact ih.trans (Nat.le_add_right _ _)

/-- The month in which a day of a year lies, and the days of that month before it. -/
theorem findMonth_days (year left month n : Nat) (positive : 1 ≤ month) (last : month + left = 12)
    (inside : Date.daysBeforeMonth year month + n < daysInYear year) :
    let found := Date.findMonth year left month n
    1 ≤ found.1 ∧ found.1 ≤ 12 ∧ found.2 < daysInMonth year found.1 ∧
      Date.daysBeforeMonth year found.1 + found.2 = Date.daysBeforeMonth year month + n := by
  induction left generalizing month n with
  | zero =>
    have december : month = 12 := by omega
    subst december
    rw [← daysBeforeMonth_end, daysBeforeMonth_succ positive] at inside
    exact ⟨positive, le_refl _, Nat.lt_of_add_lt_add_left inside, rfl⟩
  | succ left ih =>
    rw [Date.findMonth]
    split
    · next here => exact ⟨positive, by omega, here, rfl⟩
    · next beyond =>
      have next := daysBeforeMonth_succ positive year
      obtain ⟨first, bound, here, days⟩ :=
        ih (month + 1) (n - daysInMonth year month) (by omega) (by omega) (by omega)
      exact ⟨first, bound, here, by omega⟩

theorem daysInMonth_le (year month : Nat) : daysInMonth year month ≤ 31 := by
  unfold daysInMonth
  split
  · split <;> omega
  · split <;> omega

/-! ### Dates -/

namespace Date

/-- The fields of a date are those of a day. -/
structure IsValid (d : Date) : Prop where
  year : 1 ≤ d.year
  month : 1 ≤ d.month ∧ d.month ≤ 12
  day : 1 ≤ d.day ∧ d.day ≤ daysInMonth d.year d.month

variable {d e : Date}

/-- Every day has a date, and the date is that of the day. -/
theorem ofOrdinal_days (n : Nat) : (ofOrdinal n).IsValid ∧ (ofOrdinal n).ordinal = n := by
  obtain ⟨above, inside, years⟩ := findYear_days (le_refl 1) n
  obtain ⟨first, last, here, months⟩ := findMonth_days (findYear 1 n).1 11 1 (findYear 1 n).2
    (le_refl 1) rfl (by simpa [daysBeforeMonth] using inside)
  have start : daysBeforeYear 1 = 0 ∧ daysBeforeMonth (findYear 1 n).1 1 = 0 := ⟨rfl, rfl⟩
  refine ⟨⟨above, ⟨first, last⟩, Nat.le_add_left 1 _, here⟩, ?_⟩
  simp only [ordinal, ofOrdinal]
  omega

theorem IsValid.day_lt_year (valid : d.IsValid) :
    daysBeforeMonth d.year d.month + (d.day - 1) < daysInYear d.year := by
  have month := daysBeforeMonth_succ valid.month.1 d.year
  have rest := daysBeforeMonth_mono d.year (Nat.le_add_left 1 d.month)
    (show d.month + 1 ≤ 13 from Nat.succ_le_succ valid.month.2)
  rw [daysBeforeMonth_end] at rest
  have bounds := valid.day
  omega

theorem IsValid.ordinal_lt_of_year (valid : d.IsValid) (less : d.year < e.year) :
    d.ordinal < e.ordinal := by
  have inside := valid.day_lt_year
  have next := daysBeforeYear_succ valid.year
  have later := daysBeforeYear_mono (Nat.le_add_left 1 d.year) less
  simp only [ordinal]
  omega

theorem IsValid.ordinal_lt_of_month (valid : d.IsValid) (year : d.year = e.year)
    (less : d.month < e.month) : d.ordinal < e.ordinal := by
  have next := daysBeforeMonth_succ valid.month.1 d.year
  have later := daysBeforeMonth_mono d.year (Nat.le_add_left 1 d.month) less
  have bounds := valid.day
  simp only [ordinal, ← year]
  omega

theorem IsValid.ordinal_lt_of_day (valid : d.IsValid) (year : d.year = e.year)
    (month : d.month = e.month) (less : d.day < e.day) : d.ordinal < e.ordinal := by
  have bounds := valid.day
  simp only [ordinal, ← year, ← month]
  omega

/-- A day has one date. -/
theorem IsValid.eq_of_ordinal (valid : d.IsValid) (valid' : e.IsValid)
    (same : d.ordinal = e.ordinal) : d = e := by
  have year : d.year = e.year := by
    obtain less | level | less := lt_trichotomy d.year e.year
    · exact absurd same (valid.ordinal_lt_of_year less).ne
    · exact level
    · exact absurd same (valid'.ordinal_lt_of_year less).ne'
  have month : d.month = e.month := by
    obtain less | level | less := lt_trichotomy d.month e.month
    · exact absurd same (valid.ordinal_lt_of_month year less).ne
    · exact level
    · exact absurd same (valid'.ordinal_lt_of_month year.symm less).ne'
  have day : d.day = e.day := by
    obtain less | level | less := lt_trichotomy d.day e.day
    · exact absurd same (valid.ordinal_lt_of_day year month less).ne
    · exact level
    · exact absurd same (valid'.ordinal_lt_of_day year.symm month.symm less).ne'
  cases d
  cases e
  simp_all

theorem IsValid.ofOrdinal_ordinal (valid : d.IsValid) : ofOrdinal d.ordinal = d :=
  have ⟨found, days⟩ := ofOrdinal_days d.ordinal
  found.eq_of_ordinal valid days

end Date

/-! ### Instants -/

namespace DateTime

/-- The fields of a time are those of an instant. -/
structure IsValid (t : DateTime) : Prop where
  date : t.date.IsValid
  hour : t.hour < 24
  minute : t.minute < 60
  second : t.second < 60
  microsecond : t.microsecond < 1000000

variable {t u : DateTime}

theorem instant_ofInstant {n : Nat} (inside : n < endOfTime) :
    ∃ u, ofInstant n = .ok u ∧ u.IsValid ∧ u.offset = some 0 ∧ u.instant = n ∧
      u.date.ordinal = n / microsecondsPerDay := by
  have range : ¬((n : Int) < 0 || (endOfTime : Int) ≤ n) = true := by
    simp only [Bool.or_eq_true, decide_eq_true_eq]
    omega
  obtain ⟨valid, days⟩ := Date.ofOrdinal_days (n / microsecondsPerDay)
  refine ⟨_, if_neg range, ⟨valid, ?_, ?_, ?_, ?_⟩, rfl, ?_, days⟩
  · simp only [microsecondsPerDay]
    omega
  · exact Nat.mod_lt _ (by decide)
  · exact Nat.mod_lt _ (by decide)
  · exact Nat.mod_lt _ (by decide)
  · simp only [instant, Int.toNat_natCast, days, Option.getD_some]
    simp only [microsecondsPerDay]
    omega

/-- Universal time is told of an instant in the years 1 to 9999, keeps the instant, and has the date
of the day that the instant lies in. -/
structure IsUniversal (t u : DateTime) : Prop where
  valid : u.IsValid
  year : u.date.year ≤ 9999
  offset : u.offset = some 0
  instant : u.instant = t.instant
  day : (u.date.ordinal : Int) = t.instant / microsecondsPerDay

theorem isUniversal_of_toUniversal (converted : t.toUniversal = .ok u) : IsUniversal t u := by
  have range : 0 ≤ t.instant ∧ t.instant < endOfTime := by
    by_contra outside
    have beyond : (t.instant < 0 || (endOfTime : Int) ≤ t.instant) = true := by
      simp only [Bool.or_eq_true, decide_eq_true_eq]
      omega
    rw [toUniversal, ofInstant, if_pos beyond] at converted
    cases converted
  obtain ⟨n, instant⟩ := Int.eq_ofNat_of_zero_le range.1
  have inside : n < endOfTime := by omega
  obtain ⟨u', told, valid, offset, kept, day⟩ := instant_ofInstant inside
  rw [toUniversal, instant, told] at converted
  cases converted
  refine ⟨valid, ?_, offset, by rw [kept, instant], by rw [day, instant]; rfl⟩
  -- The days of the year 10000 are behind the end of time.
  by_contra late
  have start := daysBeforeYear_mono (by decide : 1 ≤ 10000) (Nat.not_le.mp late)
  have day_lt : n / microsecondsPerDay < Date.daysBeforeYear 10000 :=
    Nat.div_lt_of_lt_mul (by rw [Nat.mul_comm]; exact inside)
  simp only [Date.ordinal] at day
  omega

end DateTime

end ChallengeDns
