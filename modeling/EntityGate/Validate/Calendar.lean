/-
# Days of the calendar

A day is a year and its place in that year, counted from one.  Months, days of the week and
weeks are functions of it; the other way round, the `of…?` functions find the day that some of
them describe, if there is one.  Days of the week are numbered from Monday, which is zero.
-/

namespace EntityGate

/-- A day: its year and its place in the year, counted from one. -/
structure Day where
  year : Int
  ordinal : Nat
deriving DecidableEq, Repr

namespace Day

/-! ## Years and months -/

/-- Whether a year has a 29th of February. -/
def isLeap (year : Int) : Bool :=
  year.emod 4 = 0 && (year.emod 100 ≠ 0 || year.emod 400 = 0)

/-- The number of days of a month. -/
def monthLength (year : Int) (month : Nat) : Nat :=
  if month = 2 then if isLeap year then 29 else 28
  else if month = 4 ∨ month = 6 ∨ month = 9 ∨ month = 11 then 30 else 31

/-- The number of days of a year before a month. -/
def daysBefore (year : Int) (month : Nat) : Nat :=
  (List.range (month - 1)).foldl (fun days i => days + monthLength year (i + 1)) 0

/-- The number of days of a year. -/
def yearLength (year : Int) : Nat := if isLeap year then 366 else 365

/-- The years that have days. -/
def hasYear (year : Int) : Bool := -262143 ≤ year && year ≤ 262142

/-- The month that a day lies in. -/
def month (d : Day) : Nat :=
  ((List.range 12).find? fun i => d.ordinal ≤ daysBefore d.year (i + 2)).getD 11 + 1

/-- The place of a day in its month. -/
def dayOfMonth (d : Day) : Nat := d.ordinal - daysBefore d.year d.month

/-- The quarter that a day lies in. -/
def quarter (d : Day) : Nat := (d.month + 2) / 3

/-! ## Weeks -/

/-- The day of the week. -/
def weekday (d : Day) : Int :=
  let y := d.year - 1
  (365 * y + y.fdiv 4 - y.fdiv 100 + y.fdiv 400 + d.ordinal - 1).emod 7

/-- How many days a day of the week comes after another one. -/
def daysSince (start weekday : Int) : Int := (weekday - start).emod 7

/-- The week of the year, where weeks begin on some day of the week and the days before the
first such day are in week zero. -/
def weekFrom (start : Int) (d : Day) : Int :=
  (d.ordinal - daysSince start d.weekday + 6) / 7

/-- The place of the Monday of the first week that has most of its days in a year; it may lie
before the year. -/
def firstMonday (year : Int) : Int := 4 - weekday ⟨year, 4⟩

/-- The place of the Thursday of a day's week, relative to the year of the day. -/
def thursday (d : Day) : Int := d.ordinal - d.weekday + 3

/-- The year that has most days of a day's week. -/
def weekYear (d : Day) : Int :=
  if d.thursday < 1 then d.year - 1
  else if d.thursday ≤ yearLength d.year then d.year
  else d.year + 1

/-- The week of a day in the year that has most of its days. -/
def week (d : Day) : Int :=
  if d.thursday < 1 then (d.thursday + yearLength (d.year - 1) - 1) / 7 + 1
  else if d.thursday ≤ yearLength d.year then (d.thursday - 1) / 7 + 1
  else 1

/-! ## Days from their parts -/

/-- The day at some place of a year. -/
def ofOrdinal? (year : Int) (ordinal : Int) : Option Day :=
  if 1 ≤ ordinal ∧ ordinal ≤ yearLength year then some ⟨year, ordinal.toNat⟩ else none

/-- The day of a month. -/
def ofMonth? (year month day : Int) : Option Day :=
  if 1 ≤ month ∧ month ≤ 12 ∧ 1 ≤ day ∧ day ≤ monthLength year month.toNat then
    some ⟨year, daysBefore year month.toNat + day.toNat⟩
  else none

/-- The day of a week of the year, where weeks begin on some day of the week. -/
def ofWeekFrom? (start year week weekday : Int) : Option Day :=
  ofOrdinal? year (1 + daysSince (Day.weekday ⟨year, 1⟩) start + 7 * (week - 1) +
    daysSince start weekday)

/-- The day of a week that has most of its days in a year. -/
def ofWeek? (year week weekday : Int) : Option Day :=
  let monday := firstMonday year + 7 * (week - 1)
  if week < 1 ∨ yearLength year < monday + 3 then none
  else
    let place := monday + weekday
    if place < 1 then some ⟨year - 1, (place + yearLength (year - 1)).toNat⟩
    else if place ≤ yearLength year then some ⟨year, place.toNat⟩
    else some ⟨year + 1, (place - yearLength year).toNat⟩

end Day

end EntityGate
