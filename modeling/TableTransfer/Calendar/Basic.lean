namespace TableTransfer

structure CivilDate where
  year : Int
  month : Nat
  day : Nat
deriving DecidableEq

namespace CivilDate

def isLeap (year : Int) : Bool := year % 4 = 0 && (year % 100 ≠ 0 || year % 400 = 0)

def daysInMonth (year : Int) (month : Nat) : Nat :=
  if month = 2 then (if isLeap year then 29 else 28)
  else if month = 4 ∨ month = 6 ∨ month = 9 ∨ month = 11 then 30
  else 31

/-- Days since 1970-01-01, counted in years that begin in March. -/
def toDay (c : CivilDate) : Int :=
  let y := if c.month ≤ 2 then c.year - 1 else c.year
  let era := y / 400
  let yearOfEra := y % 400
  let monthFromMarch : Int := (c.month + 9) % 12
  let dayOfYear := (153 * monthFromMarch + 2) / 5 + c.day - 1
  let dayOfEra := yearOfEra * 365 + yearOfEra / 4 - yearOfEra / 100 + dayOfYear
  era * 146097 + dayOfEra - 719468

def ofDay (day : Int) : CivilDate :=
  let shifted := day + 719468
  let era := shifted / 146097
  let dayOfEra := shifted % 146097
  let yearOfEra := (dayOfEra - dayOfEra / 1460 + dayOfEra / 36524 - dayOfEra / 146096) / 365
  let dayOfYear := dayOfEra - (365 * yearOfEra + yearOfEra / 4 - yearOfEra / 100)
  let monthFromMarch := (5 * dayOfYear + 2) / 153
  let month := if monthFromMarch < 10 then monthFromMarch + 3 else monthFromMarch - 9
  { year := yearOfEra + era * 400 + if month ≤ 2 then 1 else 0
    month := month.toNat
    day := (dayOfYear - (153 * monthFromMarch + 2) / 5 + 1).toNat }

end CivilDate

/-- A day between the first of the year -262143 and the last of the year 262142, counted from
1970-01-01. -/
structure Date where
  day : Int
  first_le : -96465292 ≤ day := by decide
  le_last : day ≤ 95026236 := by decide
deriving DecidableEq

def Date.ofDay? (day : Int) : Option Date :=
  if h : -96465292 ≤ day ∧ day ≤ 95026236 then some ⟨day, h.1, h.2⟩ else none

def Date.ofCivil? (c : CivilDate) : Option Date :=
  if 1 ≤ c.month ∧ c.month ≤ 12 ∧ 1 ≤ c.day ∧ c.day ≤ CivilDate.daysInMonth c.year c.month then
    Date.ofDay? c.toDay
  else none

/-- Seconds since midnight and nanoseconds; a leap second counts on in the nanoseconds. -/
structure Time where
  second : Nat
  nano : Nat
  second_lt : second < 86400 := by decide
  nano_lt : nano < 2000000000 := by decide
deriving DecidableEq

namespace Time

def midnight : Time := ⟨0, 0, by decide, by decide⟩

def ofSecond? (second nano : Nat) : Option Time :=
  if h : second < 86400 ∧ nano < 2000000000 then some ⟨second, nano, h.1, h.2⟩ else none

def ofClock? (hour minute second nano : Nat) : Option Time :=
  if hour < 24 ∧ minute < 60 ∧ second < 60 ∧ (nano < 1000000000 ∨ second = 59) then
    ofSecond? (hour * 3600 + minute * 60 + second) nano
  else none

def IsPlain (t : Time) : Prop := t.nano < 1000000000

end Time

structure Timestamp where
  date : Date
  time : Time
deriving DecidableEq

namespace Timestamp

def epochSecond (t : Timestamp) : Int := t.date.day * 86400 + t.time.second

def ofEpoch? (second : Int) (nano : Nat) : Option Timestamp := do
  let date ← Date.ofDay? (second / 86400)
  let time ← Time.ofSecond? (second % 86400).toNat nano
  return ⟨date, time⟩

end Timestamp

/-- A moment in universal time and the seconds by which the local clock is ahead. -/
structure OffsetTimestamp where
  utc : Timestamp
  offset : Int
  neg_day_lt : -86400 < offset := by decide
  lt_day : offset < 86400 := by decide
deriving DecidableEq

namespace OffsetTimestamp

def ofUtc (t : Timestamp) : OffsetTimestamp := ⟨t, 0, by decide, by decide⟩

def ofLocal? (t : Timestamp) (offset : Int) : Option OffsetTimestamp :=
  if h : -86400 < offset ∧ offset < 86400 then
    (Timestamp.ofEpoch? (t.epochSecond - offset) t.time.nano).map (⟨·, offset, h.1, h.2⟩)
  else none

def localSecond (t : OffsetTimestamp) : Int := t.utc.epochSecond + t.offset

end OffsetTimestamp

theorem Date.ofDay?_day (d : Date) : Date.ofDay? d.day = some d := by
  simp [Date.ofDay?, d.first_le, d.le_last]

theorem Date.ofDay?_eq_some_iff {n : Int} {d : Date} : Date.ofDay? n = some d ↔ d.day = n := by
  constructor
  · intro h
    simp only [Date.ofDay?] at h
    split at h <;> simp_all
    exact h ▸ rfl
  · rintro rfl
    exact Date.ofDay?_day d

end TableTransfer
