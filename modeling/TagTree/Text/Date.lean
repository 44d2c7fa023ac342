/-!
# Dates

Moments are given in seconds from the beginning of 1970. Each falls on a day of the calendar and on
a time of day, and on a day of a week.
-/

namespace TagTree.Text

/-- A day of the calendar and a time of day. -/
structure Date where
  /-- Seconds from the beginning of 1970. -/
  moment : Int
  year : Int
  month : Nat
  day : Nat
  hour : Nat
  minute : Nat
  second : Nat
  /-- Days since Sunday. -/
  weekday : Nat
  /-- Days since the beginning of the year. -/
  yearDay : Nat
  deriving DecidableEq, Repr

def isLeapYear (year : Int) : Bool :=
  year % 4 == 0 && (year % 100 != 0 || year % 400 == 0)

/-- The lengths of the months of a year. -/
def monthLengths (year : Int) : List Nat :=
  [31, if isLeapYear year then 29 else 28, 31, 30, 31, 30, 31, 31, 30, 31, 30, 31]

/-- The month and day that a number of days into a year fall on, both counted from one. -/
def monthAndDay : List Nat → Nat → Nat → Nat × Nat
  | [], month, days => (month, days + 1)
  | length :: rest, month, days =>
    if days < length then (month, days + 1) else monthAndDay rest (month + 1) (days - length)

/-- Days from the beginning of 1970 to the beginning of a year. -/
def daysBefore (year : Int) : Int :=
  let y := year - 1
  365 * (year - 1970) + (y.fdiv 4 - y.fdiv 100 + y.fdiv 400) - 477

/-- The date of a moment. The year is found from an estimate that is at most one too large. -/
def dateOf (seconds : Int) : Date :=
  let days := seconds.fdiv 86400
  let time := (seconds.fmod 86400).toNat
  let guess := 1970 + (days * 400).fdiv 146097 + 1
  let year :=
    if daysBefore guess ≤ days then guess
    else if daysBefore (guess - 1) ≤ days then guess - 1
    else guess - 2
  let yearDay := (days - daysBefore year).toNat
  let (month, day) := monthAndDay (monthLengths year) 1 yearDay
  { moment := seconds
    year, month, day, yearDay
    hour := time / 3600
    minute := time / 60 % 60
    second := time % 60
    weekday := ((days + 4).fmod 7).toNat }

/-- The week of the year, if weeks begin on the given weekday and days before the first such day
are in week zero. -/
def Date.week (d : Date) (begin : Nat) : Nat :=
  (d.yearDay + 7 - (d.weekday + 7 - begin) % 7) / 7

/-- The hour as a clock with twelve hours shows it. -/
def Date.clockHour (d : Date) : Nat :=
  if d.hour % 12 = 0 then 12 else d.hour % 12

/-- The week that begins on Monday and the year that it counts for, which is the year of its
Thursday. -/
def Date.calendarWeek (d : Date) : Int × Nat :=
  let thursday : Int := d.yearDay + 3 - ((d.weekday + 6) % 7 : Nat)
  let length : Int := if isLeapYear d.year then 366 else 365
  let before : Int := if isLeapYear (d.year - 1) then 366 else 365
  if thursday < 0 then (d.year - 1, (thursday + before).toNat / 7 + 1)
  else if length ≤ thursday then (d.year + 1, (thursday - length).toNat / 7 + 1)
  else (d.year, thursday.toNat / 7 + 1)

def weekdayNames : List String :=
  ["Sunday", "Monday", "Tuesday", "Wednesday", "Thursday", "Friday", "Saturday"]

def monthNames : List String :=
  ["January", "February", "March", "April", "May", "June", "July", "August", "September",
   "October", "November", "December"]

def nameAt (names : List String) (index : Nat) : String :=
  names[index]?.getD ""

/-- The short form of a name. -/
def shortened (name : String) : String :=
  String.ofList (name.toList.take 3)

end TagTree.Text
