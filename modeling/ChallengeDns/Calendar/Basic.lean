import ChallengeDns.Text.Basic
/-!
# Calendar

Dates of the Gregorian calendar from year 1 to year 9999, times of day to the microsecond, and
offsets from universal time.  `Date.ordinal` counts the days since the first of January of year 1
and `Date.ofOrdinal` finds the date again.  An instant is a number of microseconds since that day.
-/

namespace ChallengeDns

def isLeapYear (year : Nat) : Bool := year % 4 = 0 && (year % 100 ≠ 0 || year % 400 = 0)

def daysInYear (year : Nat) : Nat := if isLeapYear year then 366 else 365

def daysInMonth (year month : Nat) : Nat :=
  if month = 2 then (if isLeapYear year then 29 else 28)
  else if month = 4 || month = 6 || month = 9 || month = 11 then 30
  else 31

structure Date where
  year : Nat
  month : Nat
  day : Nat
deriving DecidableEq, Inhabited

/-- Why fields make no date and time. -/
inductive CalendarError where
  | year (year : Int)
  | month
  | day
  | hour
  | minute
  | second
  | microsecond
  | offset
  | outOfRange
deriving DecidableEq

def CalendarError.message : CalendarError → Text
  | .year y => "year " ++ Text.ofInt y ++ " is out of range"
  | .month => "month must be in 1..12"
  | .day => "day is out of range for month"
  | .hour => "hour must be in 0..23"
  | .minute => "minute must be in 0..59"
  | .second => "second must be in 0..59"
  | .microsecond => "microsecond must be in 0..999999"
  | .offset => "offset must be strictly between a day before and a day after universal time"
  | .outOfRange => "date value out of range"

namespace Date

def ofFields (year month day : Int) : Except CalendarError Date :=
  if year < 1 || 9999 < year then .error (.year year)
  else if month < 1 || 12 < month then .error .month
  else if day < 1 || daysInMonth year.toNat month.toNat < day then .error .day
  else .ok ⟨year.toNat, month.toNat, day.toNat⟩

/-- The days before a month in its year. -/
def daysBeforeMonth (year : Nat) : Nat → Nat
  | 0 => 0
  | 1 => 0
  | month + 1 => daysBeforeMonth year month + daysInMonth year month

/-- The days before a year since year 1. -/
def daysBeforeYear (year : Nat) : Nat :=
  365 * (year - 1) + (year - 1) / 4 - (year - 1) / 100 + (year - 1) / 400

/-- The days since the first day of year 1. -/
def ordinal (d : Date) : Nat := daysBeforeYear d.year + daysBeforeMonth d.year d.month + (d.day - 1)

theorem daysInYear_pos (year : Nat) : 0 < daysInYear year := by
  unfold daysInYear
  split <;> decide

/-- The year that holds day `n` after the start of `year`, and the days since that year's start. -/
def findYear (year n : Nat) : Nat × Nat :=
  if n < daysInYear year then (year, n) else findYear (year + 1) (n - daysInYear year)
termination_by n
decreasing_by
  have := daysInYear_pos year
  omega

/-- The month that holds day `n` after the start of the month that `left` months follow, and the day
in it counted from zero. -/
def findMonth (year : Nat) : Nat → Nat → Nat → Nat × Nat
  | 0, month, n => (month, n)
  | left + 1, month, n =>
    if n < daysInMonth year month then (month, n)
    else findMonth year left (month + 1) (n - daysInMonth year month)

/-- The date that comes `n` days after the first day of year 1. -/
def ofOrdinal (n : Nat) : Date :=
  let (year, rest) := findYear 1 n
  let (month, day) := findMonth year 11 1 rest
  ⟨year, month, day + 1⟩

/-- Year, month and day with hyphens. -/
def text (d : Date) : Text :=
  Text.padded 4 d.year ++ "-" ++ Text.padded 2 d.month ++ "-" ++ Text.padded 2 d.day

end Date

/-- A date and a time of day; `offset` is the distance to universal time in microseconds, if
known. -/
structure DateTime where
  date : Date
  hour : Nat
  minute : Nat
  second : Nat
  microsecond : Nat
  offset : Option Int
deriving DecidableEq

namespace DateTime

/-- The date and time with the given fields; the offset is given in seconds. -/
def ofFields (date : Except CalendarError Date) (hour minute second microsecond : Int)
    (offset : Option Int) : Except CalendarError DateTime :=
  match date with
  | .error e => .error e
  | .ok d =>
    if hour < 0 || 23 < hour then .error .hour
    else if minute < 0 || 59 < minute then .error .minute
    else if second < 0 || 59 < second then .error .second
    else if microsecond < 0 || 999999 < microsecond then .error .microsecond
    else match offset with
      | some o =>
        if o ≤ -86400 || 86400 ≤ o then .error .offset
        else .ok ⟨d, hour.toNat, minute.toNat, second.toNat, microsecond.toNat, some (o * 1000000)⟩
      | none => .ok ⟨d, hour.toNat, minute.toNat, second.toNat, microsecond.toNat, none⟩

/-- The microseconds since the start of year 1 in universal time; a time without an offset is taken
to be in universal time. -/
def instant (t : DateTime) : Int :=
  (((t.date.ordinal * 24 + t.hour) * 60 + t.minute) * 60 + t.second : Nat) * 1000000
    + t.microsecond - t.offset.getD 0

def microsecondsPerDay : Nat := 86400000000

/-- The first instant behind year 9999. -/
def endOfTime : Nat := Date.daysBeforeYear 10000 * microsecondsPerDay

/-- The universal date and time of an instant, if it lies in the years 1 to 9999. -/
def ofInstant (i : Int) : Except CalendarError DateTime :=
  if i < 0 || (endOfTime : Int) ≤ i then .error .outOfRange
  else
    let n := i.toNat
    let inDay := n % microsecondsPerDay
    let seconds := inDay / 1000000
    .ok ⟨Date.ofOrdinal (n / microsecondsPerDay), seconds / 3600, seconds / 60 % 60, seconds % 60,
      inDay % 1000000, some 0⟩

/-- The first of January 1970, as an instant. -/
def epoch : Nat := 719162 * microsecondsPerDay

/-- The universal date and time so many microseconds after the start of 1970. -/
def ofUnix (microseconds : Int) : Except CalendarError DateTime := ofInstant (epoch + microseconds)

def toUniversal (t : DateTime) : Except CalendarError DateTime := ofInstant t.instant

/-- An offset as a sign, hours and minutes, with seconds and microseconds only as far as there are
any. -/
def offsetText (offset : Int) : Text :=
  let n := offset.natAbs / 1000000
  let rest := offset.natAbs % 1000000
  (if offset < 0 then "-" else "+" : Text) ++ Text.padded 2 (n / 3600)
    ++ ":" ++ Text.padded 2 (n / 60 % 60)
    ++ Text.when (n % 60 != 0 || rest != 0) (":" ++ Text.padded 2 (n % 60))
    ++ Text.when (rest != 0) ("." ++ Text.padded 6 rest)

/-- Hours, minutes and seconds with colons. -/
def clockText (t : DateTime) : Text :=
  Text.padded 2 t.hour ++ ":" ++ Text.padded 2 t.minute ++ ":" ++ Text.padded 2 t.second

/-- Date and time with `separator` between them, microseconds only if there are any, and the offset
if it is known. -/
def text (separator : Text) (t : DateTime) : Text :=
  t.date.text ++ separator ++ t.clockText
    ++ Text.when (t.microsecond != 0) ("." ++ Text.padded 6 t.microsecond)
    ++ (match t.offset with
      | none => []
      | some o => offsetText o)

end DateTime

end ChallengeDns
