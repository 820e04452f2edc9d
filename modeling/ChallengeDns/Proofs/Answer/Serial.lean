import Mathlib
import ChallengeDns.Answer.Serial
import ChallengeDns.Proofs.Calendar.Dates
import ChallengeDns.Proofs.Text.Digits

/-!
# Serial numbers follow time

The digits of a date write the number in which the year counts for ten thousand and the month for a
hundred.  Valid dates stand in the order of these numbers, which is the order of the days, so the
serial number of the zone grows with the instants and tells their universal dates apart.
-/
namespace ChallengeDns

variable {d e : Date}

namespace Date

theorem IsValid.serial_eq (valid : d.IsValid) :
    d.serial = d.year * 10000 + d.month * 100 + d.day := by
  have month : (Text.padded 2 d.month).length = 2 :=
    Text.length_padded (by decide) (valid.month.2.trans_lt (by decide))
  have day : (Text.padded 2 d.day).length = 2 :=
    Text.length_padded (by decide)
      ((valid.day.2.trans (daysInMonth_le _ _)).trans_lt (by decide))
  rw [serial, digits, Text.natural_append, Text.natural_append, month, day, Text.natural_ofNat,
    Text.natural_padded, Text.natural_padded]
  ring

/-- The number of a later day is greater. -/
theorem IsValid.serial_le_iff (valid : d.IsValid) (valid' : e.IsValid) :
    d.serial ≤ e.serial ↔ d.ordinal ≤ e.ordinal := by
  rw [valid.serial_eq, valid'.serial_eq]
  have days := valid.day.2.trans (daysInMonth_le _ _)
  have days' := valid'.day.2.trans (daysInMonth_le _ _)
  have := valid.month
  have := valid'.month
  have := valid.day.1
  have := valid'.day.1
  obtain before | same | after := lt_trichotomy d.year e.year
  · have := valid.ordinal_lt_of_year before
    omega
  · obtain before | level | after := lt_trichotomy d.month e.month
    · have := valid.ordinal_lt_of_month same before
      omega
    · rw [ordinal, ordinal, same, level]
      omega
    · have := valid'.ordinal_lt_of_month same.symm after
      omega
  · have := valid'.ordinal_lt_of_year after
    omega

/-- A number is that of one date. -/
theorem IsValid.serial_inj (valid : d.IsValid) (valid' : e.IsValid) :
    d.serial = e.serial ↔ d = e := by
  refine ⟨fun equal => valid.eq_of_ordinal valid' (Nat.le_antisymm ?_ ?_), congrArg serial⟩
  · exact (valid.serial_le_iff valid').mp equal.le
  · exact (valid'.serial_le_iff valid).mp equal.ge

end Date

/-- The serial number of a time that has a universal date is the number of that date. -/
theorem zoneSerial_of_toUniversal {t u : DateTime} (converted : t.toUniversal = .ok u) :
    zoneSerial t = .ok u.date.serial := by
  rw [zoneSerial, converted]
  rfl

/-- The serial number of the zone follows real time.  Whatever their offsets, two times with a
universal date have serial numbers that are ordered as the instants are and are the same exactly for
one universal date, which is for instants in one day. -/
theorem zoneSerial_follows_time {a b u v : DateTime} (first : a.toUniversal = .ok u)
    (second : b.toUniversal = .ok v) :
    ∃ m n, zoneSerial a = .ok m ∧ zoneSerial b = .ok n ∧
      m = u.date.year * 10000 + u.date.month * 100 + u.date.day ∧ m < 2 ^ 32 ∧
      (a.instant ≤ b.instant → m ≤ n) ∧
      (m = n ↔ u.date = v.date) ∧
      (m = n ↔ a.instant / DateTime.microsecondsPerDay = b.instant / DateTime.microsecondsPerDay) ∧
      (a.instant = b.instant → m = n) ∧
      DateTime.IsUniversal a u ∧ DateTime.IsUniversal b v := by
  have universal := DateTime.isUniversal_of_toUniversal first
  have universal' := DateTime.isUniversal_of_toUniversal second
  have formula := universal.valid.date.serial_eq
  have ordered := universal.valid.date.serial_le_iff universal'.valid.date
  have reversed := universal'.valid.date.serial_le_iff universal.valid.date
  -- The serial number tells days apart and nothing else.
  have days : u.date.serial = v.date.serial ↔
      a.instant / DateTime.microsecondsPerDay = b.instant / DateTime.microsecondsPerDay := by
    rw [← universal.day, ← universal'.day]
    omega
  refine ⟨_, _, zoneSerial_of_toUniversal first, zoneSerial_of_toUniversal second, formula, ?_, ?_,
    universal.valid.date.serial_inj universal'.valid.date, days, fun same => ?_, universal,
    universal'⟩
  · have year := universal.year
    have month := universal.valid.date.month.2
    have day := universal.valid.date.day.2.trans (daysInMonth_le _ _)
    omega
  · intro notLater
    have day : a.instant / DateTime.microsecondsPerDay ≤ b.instant / DateTime.microsecondsPerDay :=
      Int.ediv_le_ediv (by decide) notLater
    rw [← universal.day, ← universal'.day] at day
    exact ordered.mpr (by exact_mod_cast day)
  · exact days.mpr (by rw [same])

/-- Half past eleven in the evening of the 29th of February at half past five hours behind universal
time, and ten in the morning of the first of March at five hours before it. -/
theorem zoneSerial_follows_time_sample :
    let evening : DateTime := ⟨⟨2024, 2, 29⟩, 23, 30, 0, 0, some (-19800000000)⟩
    let morning : DateTime := ⟨⟨2024, 3, 1⟩, 10, 0, 0, 0, some 18000000000⟩
    let universal : DateTime := ⟨⟨2024, 3, 1⟩, 5, 0, 0, 0, some 0⟩
    evening.toUniversal = .ok universal ∧ morning.toUniversal = .ok universal ∧
      zoneSerial evening = .ok 20240301 ∧ zoneSerial morning = .ok 20240301 := by
  intro evening morning universal
  have march : Date.ofOrdinal 738945 = ⟨2024, 3, 1⟩ :=
    Date.IsValid.ofOrdinal_ordinal (d := ⟨2024, 3, 1⟩) ⟨by decide, by decide, by decide⟩
  have told : DateTime.ofInstant 63844866000000000 = .ok universal :=
    congrArg (fun date => Except.ok (⟨date, 5, 0, 0, 0, some 0⟩ : DateTime)) march
  have instant : evening.instant = 63844866000000000 := by decide
  have instant' : morning.instant = 63844866000000000 := by decide
  have converted : evening.toUniversal = .ok universal := by
    rw [DateTime.toUniversal, instant, told]
  have converted' : morning.toUniversal = .ok universal := by
    rw [DateTime.toUniversal, instant', told]
  obtain ⟨m, n, first, second, formula, -, -, same, -⟩ :=
    zoneSerial_follows_time converted converted'
  have value : m = 20240301 := formula.trans (by decide)
  have value' : n = 20240301 := (same.mpr rfl).symm.trans value
  subst value value'
  exact ⟨converted, converted', first, second⟩

end ChallengeDns
