/-!
Points in time with nanosecond resolution, in UTC, and the proleptic Gregorian calendar. A leap
second is kept inside the second it follows: its nanoseconds count on from 1 000 000 000.
-/

namespace Runbook

/-- Seconds since the start of 1970 and nanoseconds within the second. -/
structure Instant where
  seconds : Int
  nanos : Nat
deriving DecidableEq, Inhabited

namespace Instant

def before (a b : Instant) : Bool :=
  a.seconds < b.seconds || (a.seconds == b.seconds && a.nanos < b.nanos)

def addSeconds (t : Instant) (n : Int) : Instant := { t with seconds := t.seconds + n }

theorem before_iff {a b : Instant} : a.before b = true ↔
    a.seconds < b.seconds ∨ a.seconds = b.seconds ∧ a.nanos < b.nanos := by
  simp only [before, Bool.or_eq_true, Bool.and_eq_true, decide_eq_true_eq, beq_iff_eq]

theorem not_before_iff {a b : Instant} : a.before b = false ↔
    b.seconds < a.seconds ∨ a.seconds = b.seconds ∧ b.nanos ≤ a.nanos := by
  rw [← Bool.not_eq_true, before_iff]
  omega

end Instant

structure Date where
  year : Int
  month : Nat
  day : Nat
deriving DecidableEq

namespace Date

def isLeapYear (year : Int) : Bool :=
  year % 4 == 0 && (year % 100 != 0 || year % 400 == 0)

def daysInMonth (year : Int) (month : Nat) : Nat :=
  if month = 2 then if isLeapYear year then 29 else 28
  else if month = 4 || month = 6 || month = 9 || month = 11 then 30
  else 31

def isValid (d : Date) : Bool :=
  1 ≤ d.month && d.month ≤ 12 && 1 ≤ d.day && d.day ≤ daysInMonth d.year d.month

/-- Days since the start of 1970. The year is taken to begin in March, so that the leap day is
its last one. -/
def toDays (d : Date) : Int :=
  let year : Int := if d.month ≤ 2 then d.year - 1 else d.year
  let era := year / 400
  let yearOfEra := year % 400
  let monthFromMarch : Int := (d.month + 9) % 12
  let dayOfYear := (153 * monthFromMarch + 2) / 5 + d.day - 1
  let dayOfEra := yearOfEra * 365 + yearOfEra / 4 - yearOfEra / 100 + dayOfYear
  era * 146097 + dayOfEra - 719468

def ofDays (days : Int) : Date :=
  let shifted := days + 719468
  let era := shifted / 146097
  let dayOfEra := shifted % 146097
  let yearOfEra :=
    (dayOfEra - dayOfEra / 1460 + dayOfEra / 36524 - dayOfEra / 146096) / 365
  let dayOfYear := dayOfEra - (365 * yearOfEra + yearOfEra / 4 - yearOfEra / 100)
  let monthFromMarch := (5 * dayOfYear + 2) / 153
  let day := dayOfYear - (153 * monthFromMarch + 2) / 5 + 1
  let month := if monthFromMarch < 10 then monthFromMarch + 3 else monthFromMarch - 9
  let year := yearOfEra + era * 400
  { year := if month ≤ 2 then year + 1 else year, month := month.toNat, day := day.toNat }

end Date

namespace Instant

def yearInRange (year : Int) : Bool := -262143 ≤ year && year ≤ 262142

def ofDate (d : Date) (hour minute second : Nat) (nanos : Nat) : Instant :=
  ⟨d.toDays * 86400 + (hour * 3600 + minute * 60 + second : Nat), nanos⟩

def date (t : Instant) : Date := Date.ofDays (t.seconds / 86400)

def secondOfDay (t : Instant) : Nat := (t.seconds % 86400).toNat

def hour (t : Instant) : Nat := t.secondOfDay / 3600

def minute (t : Instant) : Nat := t.secondOfDay / 60 % 60

/-- The second within the minute, 60 in a leap second. -/
def second (t : Instant) : Nat :=
  t.secondOfDay % 60 + (if t.nanos ≥ 1000000000 then 1 else 0)

def fraction (t : Instant) : Nat := t.nanos % 1000000000

def earliest : Instant := ofDate ⟨-262143, 1, 1⟩ 0 0 0 0

def inRange (t : Instant) : Bool := yearInRange t.date.year

end Instant

end Runbook
