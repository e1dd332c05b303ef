import DfaTable.Numeral

/-!
# DfaTable.Calendar

Days and moments of the proleptic Gregorian calendar, the checks on their parts and their texts.
Main statement: `Day.problem?_eq_none`.
-/

namespace DfaTable.Calendar

def isLeap (year : Nat) : Bool := year % 4 == 0 && (year % 100 != 0 || year % 400 == 0)

def daysIn (year month : Nat) : Nat :=
  if month = 2 then if isLeap year then 29 else 28
  else if month = 4 || month = 6 || month = 9 || month = 11 then 30
  else 31

/-- A number in decimal notation, with leading zeros up to the given width. -/
def padded (width n : Nat) : Text :=
  let digits := Numeral.ofNat n
  List.replicate (width - digits.length) '0' ++ digits

/-- Which part of a date or a time is out of its range. -/
inductive Problem where
  | year (year : Nat)
  | month
  | day
  | hour
  | minute
  | second
  | offset (minutes : Int)
deriving DecidableEq, Repr

structure Day where
  year : Nat
  month : Nat
  day : Nat
deriving DecidableEq, Repr

namespace Day

def problem? (d : Day) : Option Problem :=
  if d.year < 1 || 9999 < d.year then some (.year d.year)
  else if d.month < 1 || 12 < d.month then some .month
  else if d.day < 1 || daysIn d.year d.month < d.day then some .day
  else none

/-- The number of days before the first day of a year. -/
def daysBeforeYear (year : Nat) : Nat :=
  let past := year - 1
  past * 365 + past / 4 - past / 100 + past / 400

/-- The number of days before a day. -/
def ordinal (d : Day) : Nat :=
  let months := (List.range (d.month - 1)).map fun m => daysIn d.year (m + 1)
  daysBeforeYear d.year + months.foldl (· + ·) 0 + (d.day - 1)

/-- Year, month and day between hyphens. -/
def write (d : Day) : Text :=
  padded 4 d.year ++ '-' :: padded 2 d.month ++ '-' :: padded 2 d.day

theorem problem?_eq_none {d : Day} :
    d.problem? = none ↔ (1 ≤ d.year ∧ d.year ≤ 9999) ∧ (1 ≤ d.month ∧ d.month ≤ 12) ∧
      1 ≤ d.day ∧ d.day ≤ daysIn d.year d.month := by
  simp only [problem?, Bool.or_eq_true, decide_eq_true_eq]
  split
  · simp; omega
  split
  · simp; omega
  split
  · simp; omega
  · simp; omega

end Day

/-- A time on a day; the offset from the universal time is in minutes. -/
structure Moment where
  day : Day
  hour : Nat
  minute : Nat
  second : Nat
  microsecond : Nat
  offset : Option Int
deriving DecidableEq, Repr

namespace Moment

/-- The offset is checked first, then the parts from the largest to the smallest. -/
def problem? (m : Moment) : Option Problem :=
  match m.offset with
  | some o =>
    if o.natAbs < 1440 then parts? else some (.offset o)
  | none => parts?
where
  parts? : Option Problem :=
    match m.day.problem? with
    | some p => some p
    | none =>
      if 23 < m.hour then some .hour
      else if 59 < m.minute then some .minute
      else if 59 < m.second then some .second
      else none

/-- The microseconds up to a moment, in universal time if the moment has an offset. -/
def instant (m : Moment) : Int :=
  let minutes : Int := (m.day.ordinal * 24 + m.hour) * 60 + m.minute
  ((minutes - m.offset.getD 0) * 60 + m.second) * 1000000 + m.microsecond

/-- Whether two moments are the same; one with an offset is never one without. -/
def isSame (a b : Moment) : Bool :=
  a.offset.isSome == b.offset.isSome && a.instant == b.instant

/-- The offset as a signed number of hours and minutes. -/
def writeOffset (o : Int) : Text :=
  (if o < 0 then '-' else '+') :: padded 2 (o.natAbs / 60) ++ ':' :: padded 2 (o.natAbs % 60)

/-- The day, a space and the time; microseconds only if there are some. -/
def write (m : Moment) : Text :=
  m.day.write ++ ' ' :: padded 2 m.hour ++ ':' :: padded 2 m.minute ++ ':' :: padded 2 m.second ++
    (if m.microsecond = 0 then [] else '.' :: padded 6 m.microsecond) ++
    match m.offset with
    | none => []
    | some o => writeOffset o

end Moment
end DfaTable.Calendar
