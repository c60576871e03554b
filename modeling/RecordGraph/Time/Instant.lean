namespace RecordGraph.Time

/-- A date. Year 0 is the year before year 1. -/
@[ext] structure Date where
  year : Int
  month : Nat
  day : Nat
  deriving DecidableEq, Repr

def isLeapYear (y : Int) : Bool := y % 4 = 0 && (y % 100 ≠ 0 || y % 400 = 0)

def daysInMonth (y : Int) (m : Nat) : Nat :=
  if m = 2 then (if isLeapYear y then 29 else 28)
  else if m = 4 ∨ m = 6 ∨ m = 9 ∨ m = 11 then 30
  else 31

namespace Date

def minYear : Int := -262143

def maxYear : Int := 262142

def isValid (d : Date) : Bool :=
  minYear ≤ d.year && d.year ≤ maxYear && 1 ≤ d.month && d.month ≤ 12 &&
    1 ≤ d.day && d.day ≤ daysInMonth d.year d.month

def next (d : Date) : Date :=
  if d.day < daysInMonth d.year d.month then { d with day := d.day + 1 }
  else if d.month < 12 then ⟨d.year, d.month + 1, 1⟩
  else ⟨d.year + 1, 1, 1⟩

def previous (d : Date) : Date :=
  if 1 < d.day then { d with day := d.day - 1 }
  else if 1 < d.month then ⟨d.year, d.month - 1, daysInMonth d.year (d.month - 1)⟩
  else ⟨d.year - 1, 12, 31⟩

end Date

/-- An instant: a date, the minute of the day, the second, and the nanosecond. Second 60 is a leap second. -/
@[ext] structure Instant where
  date : Date
  minute : Nat
  second : Nat
  nano : Nat
  deriving DecidableEq, Repr

def minutesInDay : Nat := 1440

namespace Instant

def isValid (t : Instant) : Bool :=
  t.date.isValid && t.minute < minutesInDay && t.second ≤ 60 && t.nano < 1000000000

/-- The instant that a clock `offset` minutes ahead of universal time shows as `t`, for less than a day's offset. -/
def behind (t : Instant) (offset : Int) : Instant :=
  let minute := (t.minute : Int) - offset
  if minute < 0 then { t with date := t.date.previous, minute := (minute + minutesInDay).toNat }
  else if minutesInDay ≤ minute then { t with date := t.date.next, minute := (minute - minutesInDay).toNat }
  else { t with minute := minute.toNat }

@[simp] theorem behind_zero {t : Instant} (h : t.minute < minutesInDay) : t.behind 0 = t := by
  have h0 : ¬ (t.minute : Int) < 0 := by omega
  have h1 : ¬ (minutesInDay : Int) ≤ t.minute := by omega
  simp [behind, h0, h1]

end Instant

/-- A number in decimal, with zeros in front up to a width. -/
def padded (width n : Nat) : String :=
  let ds := Nat.repr n
  String.ofList (List.replicate (width - ds.length) '0') ++ ds

/-- The text of a year: four digits from 0 to 9999, a sign and at least four digits otherwise. -/
def yearText (y : Int) : String :=
  if 0 ≤ y ∧ y ≤ 9999 then padded 4 y.toNat
  else (if y < 0 then "-" else "+") ++ padded 4 y.natAbs

/-- The text of a fraction of a second: as few of 0, 3, 6 and 9 digits as lose nothing. -/
def fractionText (nano : Nat) : String :=
  if nano = 0 then ""
  else if nano % 1000000 = 0 then "." ++ padded 3 (nano / 1000000)
  else if nano % 1000 = 0 then "." ++ padded 6 (nano / 1000)
  else "." ++ padded 9 nano

def Instant.text (t : Instant) : String :=
  s!"{yearText t.date.year}-{padded 2 t.date.month}-{padded 2 t.date.day}T{padded 2 (t.minute / 60)}:" ++
    s!"{padded 2 (t.minute % 60)}:{padded 2 t.second}{fractionText t.nano}Z"

end RecordGraph.Time
