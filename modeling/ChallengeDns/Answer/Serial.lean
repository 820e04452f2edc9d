import ChallengeDns.Calendar.Basic
/-!
# Serial numbers

The serial number of the zone is the universal date, year, month and day written one after the
other and read as one number.
-/

namespace ChallengeDns

/-- Year, month and day one after the other; month and day have two digits, and the year has no
zeros before it. -/
def Date.digits (d : Date) : Text :=
  Text.ofNat d.year ++ Text.padded 2 d.month ++ Text.padded 2 d.day

def Date.serial (d : Date) : Nat := Text.natural d.digits

def zoneSerial (now : DateTime) : Except CalendarError Nat :=
  now.toUniversal.map fun t => t.date.serial

end ChallengeDns
