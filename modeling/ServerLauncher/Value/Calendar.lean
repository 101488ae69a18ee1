import ServerLauncher.Text.Quoted

/-!
# Calendar dates

Configuration documents can hold dates and times of day.  A time may be given with its offset from
universal time; it is kept as it is given, and two such times are told apart by the instants that
they stand for.

## Main definitions

* `Date`, `Zone`, `Moment`: a day, an offset from universal time, a time of day on a day.
* `Date.checked`, `Zone.checked`, `Moment.checked`: the same from their numbers.
* `Moment.same`: whether two moments are one.
* `Moment.addSeconds`: the moment some seconds later.
-/

namespace ServerLauncher

/-- A day of the Gregorian calendar in the years 1 to 9999. -/
structure Date where
  year : Nat
  month : Nat
  day : Nat
deriving DecidableEq, Repr

/-- An offset from universal time, under the name by which it was given. -/
structure Zone where
  minutes : Int
  name : String
deriving DecidableEq, Repr

/-- A time of day, to the microsecond, with or without an offset from universal time. -/
structure Moment where
  date : Date
  hour : Nat
  minute : Nat
  second : Nat
  microsecond : Nat
  zone : Option Zone := none
deriving DecidableEq, Repr

/-- Why numbers are no day or no moment. -/
inductive CalendarIssue where
  | badYear (year : Nat)
  | badMonth
  | badDay
  | badHour
  | badMinute
  | badSecond
  /-- The offset from universal time, in minutes, is a day or more. -/
  | badOffset (minutes : Int)
  | beyondCalendar
deriving DecidableEq, Repr

/-- A span of whole minutes as it is shown: days, which may be negative, and seconds. -/
def shownSpan (minutes : Int) : String :=
  let days := minutes / 1440
  let seconds := minutes % 1440 * 60
  let parts := (if days = 0 then [] else ["days=" ++ toString days]) ++
    (if seconds = 0 then [] else ["seconds=" ++ toString seconds])
  "datetime.timedelta(" ++ (if parts.isEmpty then "0" else ", ".intercalate parts) ++ ")"

/-- The issue in words. -/
def CalendarIssue.message : CalendarIssue → String
  | badYear year => "year " ++ toString year ++ " is out of range"
  | badMonth => "month must be in 1..12"
  | badDay => "day is out of range for month"
  | badHour => "hour must be in 0..23"
  | badMinute => "minute must be in 0..59"
  | badSecond => "second must be in 0..59"
  | badOffset minutes =>
    "offset must be a timedelta strictly between -timedelta(hours=24) and timedelta(hours=24), " ++
      "not " ++ shownSpan minutes ++ "."
  | beyondCalendar => "date value out of range"

/-- A number with leading zeros up to a width. -/
def padded (width n : Nat) : String :=
  let ds := Nat.toDigits 10 n
  String.ofList (List.replicate (width - ds.length) '0' ++ ds)

namespace Date

/-- A year with a 29th of February. -/
def isLeap (year : Nat) : Bool := year % 4 == 0 && (year % 100 != 0 || year % 400 == 0)

/-- The number of days of a month. -/
def monthLength (year month : Nat) : Nat :=
  match month with
  | 2 => if isLeap year then 29 else 28
  | 4 | 6 | 9 | 11 => 30
  | _ => 31

/-- The days before the first of a year. -/
def daysBeforeYear (year : Nat) : Nat :=
  let y := year - 1
  y * 365 + y / 4 - y / 100 + y / 400

/-- The days of a year before the first of a month. -/
def daysBeforeMonth (year month : Nat) : Nat :=
  (List.range (month - 1)).foldl (fun days m => days + monthLength year (m + 1)) 0

/-- The number of a day, counted from the first day of the year 1 as one. -/
def ordinal (d : Date) : Nat := daysBeforeYear d.year + daysBeforeMonth d.year d.month + d.day

/-- The number of the last day of the year 9999. -/
def maxOrdinal : Nat := 3652059

/-- The day with a number. -/
def ofOrdinal (n : Nat) : Date :=
  let year := ((List.range 3).foldl (fun y _ => if daysBeforeYear (y + 1) < n then y + 1 else y)
    ((n - 1) * 400 / 146097)).max 1
  let left := n - daysBeforeYear year
  let month := ((List.range 12).map (· + 1)).foldl
    (fun best m => if daysBeforeMonth year m < left then m else best) 1
  ⟨year, month, left - daysBeforeMonth year month⟩

/-- The day with the given numbers. -/
def checked (year month day : Nat) : Except CalendarIssue Date :=
  if year = 0 ∨ 9999 < year then .error (.badYear year)
  else if month = 0 ∨ 12 < month then .error .badMonth
  else if day = 0 ∨ monthLength year month < day then .error .badDay
  else .ok ⟨year, month, day⟩

/-- The text of a day, `2001-02-03`. -/
def text (d : Date) : String :=
  padded 4 d.year ++ "-" ++ padded 2 d.month ++ "-" ++ padded 2 d.day

/-- A day as it is shown inside a collection. -/
def shown (d : Date) : String :=
  "datetime.date(" ++ ", ".intercalate [toString d.year, toString d.month, toString d.day] ++ ")"

end Date

namespace Zone

/-- The offset of a number of minutes; it is less than a day. -/
def checked (minutes : Int) (name : String) : Except CalendarIssue Zone :=
  if 1440 ≤ minutes.natAbs then .error (.badOffset minutes) else .ok ⟨minutes, name⟩

/-- The text of an offset, `+02:00`. -/
def text (z : Zone) : String :=
  (if z.minutes < 0 then "-" else "+") ++ padded 2 (z.minutes.natAbs / 60) ++ ":" ++
    padded 2 (z.minutes.natAbs % 60)

/-- An offset as it is shown inside a collection. -/
def shown (z : Zone) : String :=
  "datetime.timezone(" ++ shownSpan z.minutes ++ ", " ++ Text.quoted z.name ++ ")"

end Zone

namespace Moment

/-- The moment with the given numbers. -/
def checked (year month day hour minute second microsecond : Nat) (zone : Option Zone) :
    Except CalendarIssue Moment := do
  let date ← Date.checked year month day
  if 23 < hour then .error .badHour
  else if 59 < minute then .error .badMinute
  else if 59 < second then .error .badSecond
  else .ok ⟨date, hour, minute, second, microsecond, zone⟩

/-- The seconds from the beginning of the calendar to a moment on its own clock. -/
def localSeconds (m : Moment) : Int :=
  (m.date.ordinal : Int) * 86400 + (m.hour * 3600 + m.minute * 60 + m.second : Nat)

/-- The moment a number of seconds later on its own clock, if it lies in the years 1 to 9999. -/
def addSeconds (m : Moment) (seconds : Int) : Except CalendarIssue Moment :=
  let total := m.localSeconds + seconds
  let day := total / 86400
  let left := (total % 86400).toNat
  if day < 1 ∨ (Date.maxOrdinal : Int) < day then .error .beyondCalendar
  else .ok { m with
    date := Date.ofOrdinal day.toNat
    hour := left / 3600
    minute := left % 3600 / 60
    second := left % 60 }

/-- The microseconds from the beginning of the calendar to a moment, on the clock of universal time
if its offset is known. -/
def instant (m : Moment) : Int :=
  let offset : Int := match m.zone with
    | some z => z.minutes * 60
    | none => 0
  (m.localSeconds - offset) * 1000000 + m.microsecond

/-- Whether two moments are one.  A moment with an offset and one without never are. -/
def same (m n : Moment) : Bool := m.zone.isSome == n.zone.isSome && m.instant == n.instant

/-- The text of a moment, `2001-02-03 04:05:06` with microseconds where there are any and with the
offset if it is known. -/
def text (m : Moment) : String :=
  m.date.text ++ " " ++ padded 2 m.hour ++ ":" ++ padded 2 m.minute ++ ":" ++ padded 2 m.second ++
    (if m.microsecond = 0 then "" else "." ++ padded 6 m.microsecond) ++
    (match m.zone with
    | some z => z.text
    | none => "")

/-- A moment as it is shown inside a collection; seconds and microseconds that are zero are left
out. -/
def shown (m : Moment) : String :=
  let seconds :=
    if m.microsecond ≠ 0 then [m.second, m.microsecond]
    else if m.second ≠ 0 then [m.second] else []
  let parts := [m.date.year, m.date.month, m.date.day, m.hour, m.minute] ++ seconds
  "datetime.datetime(" ++ ", ".intercalate (parts.map toString) ++
    (match m.zone with
    | some z => ", tzinfo=" ++ z.shown
    | none => "") ++ ")"

end Moment

end ServerLauncher
