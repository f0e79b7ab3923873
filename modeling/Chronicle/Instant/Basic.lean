/-!
# Moments of time

A moment is a date of the Gregorian calendar, extended to all years, and a time of that day in
UTC. Second 60 stands for a leap second and may follow any minute. Moments are ordered from the
largest unit to the smallest.
-/

namespace Chronicle

def isLeap (year : Int) : Bool :=
  year % 4 = 0 ∧ (year % 100 ≠ 0 ∨ year % 400 = 0)

def daysInMonth (year : Int) (month : Nat) : Nat :=
  if month = 2 then (if isLeap year then 29 else 28)
  else if month = 4 ∨ month = 6 ∨ month = 9 ∨ month = 11 then 30
  else 31

structure Instant where
  year : Int
  month : Nat
  day : Nat
  hour : Nat
  minute : Nat
  second : Nat
  nano : Nat
  valid : (-262143 ≤ year ∧ year ≤ 262142) ∧ (1 ≤ month ∧ month ≤ 12)
    ∧ (1 ≤ day ∧ day ≤ daysInMonth year month)
    ∧ hour < 24 ∧ minute < 60 ∧ second ≤ 60 ∧ nano < 1_000_000_000
  deriving DecidableEq

namespace Instant

def ofFields? (year : Int) (month day hour minute second nano : Nat) : Option Instant :=
  if h : (-262143 ≤ year ∧ year ≤ 262142) ∧ (1 ≤ month ∧ month ≤ 12)
      ∧ (1 ≤ day ∧ day ≤ daysInMonth year month)
      ∧ hour < 24 ∧ minute < 60 ∧ second ≤ 60 ∧ nano < 1_000_000_000 then
    some ⟨year, month, day, hour, minute, second, nano, h⟩
  else none

/-- The fields from the largest to the smallest. -/
def key (i : Instant) : List Int :=
  [i.year, i.month, i.day, i.hour, i.minute, i.second, i.nano]

instance : Ord Instant := ⟨fun a b => compare a.key b.key⟩

/-- Whether `a` is no later than `b`. -/
def le (a b : Instant) : Bool := (compare a b).isLE

/-- Year, month and day of the day after. -/
def dayAfter (d : Int × Nat × Nat) : Int × Nat × Nat :=
  let (year, month, day) := d
  if day < daysInMonth year month then (year, month, day + 1)
  else if month < 12 then (year, month + 1, 1)
  else (year + 1, 1, 1)

/-- Year, month and day of the day before. -/
def dayBefore (d : Int × Nat × Nat) : Int × Nat × Nat :=
  let (year, month, day) := d
  if 1 < day then (year, month, day - 1)
  else if 1 < month then (year, month - 1, daysInMonth year (month - 1))
  else (year - 1, 12, 31)

/-- The day `n` days later, or earlier if `n` is negative. -/
def shiftDay (d : Int × Nat × Nat) (n : Int) : Int × Nat × Nat :=
  if 0 ≤ n then Nat.repeat dayAfter n.toNat d else Nat.repeat dayBefore n.natAbs d

/-- The moment `n` minutes later, unless it lies outside the calendar. -/
def addMinutes? (i : Instant) (n : Int) : Option Instant :=
  let minutes := (i.hour * 60 + i.minute : Int) + n
  let (year, month, day) := shiftDay (i.year, i.month, i.day) (minutes / 1440)
  let rest := (minutes % 1440).toNat
  ofFields? year month day (rest / 60) (rest % 60) i.second i.nano

end Instant
end Chronicle
