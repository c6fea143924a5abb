/-!
The civil calendar: days counted from 1 January 1970, and their year, month and day. Years are
counted from March here, so that the leap day is the last of its year.
-/

namespace HearingSync

/-- A day of the civil calendar, as its distance from 1 January 1970. -/
structure Date where
  number : Int
  deriving DecidableEq, Repr

/-- Year, month and day of the month; year 0 is the one before year 1. -/
structure CivilDate where
  year : Int
  month : Nat
  day : Nat
  deriving DecidableEq, Repr

namespace CivilDate

def isLeapYear (year : Int) : Bool :=
  year % 4 == 0 && (year % 100 != 0 || year % 400 == 0)

def daysInMonth (year : Int) (month : Nat) : Nat :=
  match month with
  | 2 => if isLeapYear year then 29 else 28
  | 4 | 6 | 9 | 11 => 30
  | _ => 31

def isRepresentable (year : Int) : Bool :=
  -262143 ≤ year && year ≤ 262142

def isValid (c : CivilDate) : Bool :=
  isRepresentable c.year && 1 ≤ c.month && c.month ≤ 12 && 1 ≤ c.day &&
    c.day ≤ daysInMonth c.year c.month

def marchYear (c : CivilDate) : Int :=
  if c.month ≤ 2 then c.year - 1 else c.year

def marchMonth (c : CivilDate) : Int :=
  if c.month ≤ 2 then c.month + 9 else c.month - 3

def toDate (c : CivilDate) : Date :=
  let y := c.marchYear
  let m := c.marchMonth
  ⟨365 * y + y / 4 - y / 100 + y / 400 + (153 * m + 2) / 5 + c.day - 719469⟩

end CivilDate

/-- Year, month and day of a date, by the 400-year cycle of 146097 days. -/
def Date.civil (d : Date) : CivilDate :=
  let z := d.number + 719468
  let cycle := z / 146097
  let dayOfCycle := z % 146097
  let yearOfCycle :=
    (dayOfCycle - dayOfCycle / 1460 + dayOfCycle / 36524 - dayOfCycle / 146096) / 365
  let year := yearOfCycle + cycle * 400
  let dayOfYear := dayOfCycle - (365 * yearOfCycle + yearOfCycle / 4 - yearOfCycle / 100)
  let month := (5 * dayOfYear + 2) / 153
  let day := dayOfYear - (153 * month + 2) / 5 + 1
  if month < 10 then { year, month := (month + 3).toNat, day := day.toNat }
  else { year := year + 1, month := (month - 9).toNat, day := day.toNat }

def Date.first : Date := CivilDate.toDate { year := -262143, month := 1, day := 1 }

def Date.last : Date := CivilDate.toDate { year := 262142, month := 12, day := 31 }

def Date.isRepresentable (d : Date) : Bool :=
  Date.first.number ≤ d.number && d.number ≤ Date.last.number

end HearingSync
