/-!
# Dates and times

Calendar dates, and times of day on them with an optional offset from universal time. The
constructors check the ranges one field at a time, so a bad date is blamed on its first bad field.
The offset is the exception. It is made before the time that has it, and so its fault comes first.

Dates and times are also keys of mappings, and as keys they are compared. Two times are the same if
they are the same instant, whatever their offsets, but a time without an offset is never the same as
one with an offset. A date is never a time.

The shown form of a time leaves out what is zero at its end: the microseconds, and the seconds if
there are no microseconds either. A negative offset is shown as a negative number of days and the
positive rest of a day.
-/

set_option autoImplicit false

namespace Mailroom

structure Date where
  year : Nat
  month : Nat
  day : Nat
  deriving DecidableEq, Repr

/-- A time on a day, with the minutes that it is ahead of universal time, if known. -/
structure DateTime where
  date : Date
  hour : Nat
  minute : Nat
  second : Nat
  microsecond : Nat
  offset : Option Int
  deriving DecidableEq, Repr

inductive CalendarError where
  | year (n : Nat)
  | month
  | day
  | hour
  | minute
  | second
  /-- The offset, in minutes, reaches a whole day. -/
  | offset (minutes : Int)
  deriving DecidableEq, Repr

def isLeapYear (y : Nat) : Bool := y % 4 == 0 && (y % 100 != 0 || y % 400 == 0)

def daysInMonth (y m : Nat) : Nat :=
  if m == 2 then (if isLeapYear y then 29 else 28)
  else if m == 4 || m == 6 || m == 9 || m == 11 then 30
  else 31

def Date.ofFields (year month day : Nat) : Except CalendarError Date :=
  if year < 1 || 9999 < year then .error (.year year)
  else if month < 1 || 12 < month then .error .month
  else if day < 1 || daysInMonth year month < day then .error .day
  else .ok ⟨year, month, day⟩

def minutesPerDay : Int := 24 * 60

/-- A time whose fields are in range. The offset is looked at before the date. -/
def DateTime.ofFields (year month day hour minute second microsecond : Nat)
    (offset : Option Int) : Except CalendarError DateTime := do
  if let some o := offset then
    if o ≤ -minutesPerDay || minutesPerDay ≤ o then throw (.offset o)
  let date ← Date.ofFields year month day
  if 23 < hour then throw .hour
  if 59 < minute then throw .minute
  if 59 < second then throw .second
  return ⟨date, hour, minute, second, microsecond, offset⟩

def Date.dayNumber (d : Date) : Nat :=
  let y := d.year - 1
  y * 365 + y / 4 - y / 100 + y / 400 +
    (List.range (d.month - 1)).foldr (fun m sum => daysInMonth d.year (m + 1) + sum) 0 + d.day

/-- The microseconds from the start of the calendar, at universal time if the offset is known. -/
def DateTime.instant (t : DateTime) : Int :=
  let minutes : Int := ((t.date.dayNumber * 24 + t.hour) * 60 + t.minute : Nat) - t.offset.getD 0
  minutes * 60000000 + (t.second * 1000000 + t.microsecond : Nat)

/-- Whether two times are the same instant. A time with an offset is never one without. -/
def DateTime.sameInstant (t u : DateTime) : Bool :=
  t.offset.isSome == u.offset.isSome && t.instant == u.instant

/-- A span of minutes as whole days and the seconds of a last, started day. -/
def showSpan (minutes : Int) : String :=
  let days := minutes.fdiv minutesPerDay
  let seconds := minutes.fmod minutesPerDay * 60
  let parts :=
    (if days = 0 then [] else [s!"days={days}"]) ++
      (if seconds = 0 then [] else [s!"seconds={seconds}"])
  "datetime.timedelta(" ++ (if parts.isEmpty then "0" else ", ".intercalate parts) ++ ")"

def showOffset (minutes : Int) : String :=
  if minutes = 0 then "datetime.timezone.utc"
  else "datetime.timezone(" ++ showSpan minutes ++ ")"

def Date.shown (d : Date) : String := s!"datetime.date({d.year}, {d.month}, {d.day})"

/-- A time as it is shown: seconds and microseconds only as far as they are needed. -/
def DateTime.shown (t : DateTime) : String :=
  let fields := [t.date.year, t.date.month, t.date.day, t.hour, t.minute] ++
    (if t.microsecond ≠ 0 then [t.second, t.microsecond]
     else if t.second ≠ 0 then [t.second] else [])
  let zone :=
    match t.offset with
    | some o => ", tzinfo=" ++ showOffset o
    | none => ""
  "datetime.datetime(" ++ ", ".intercalate (fields.map toString) ++ zone ++ ")"

def CalendarError.message : CalendarError → String
  | .year n => s!"year {n} is out of range"
  | .month => "month must be in 1..12"
  | .day => "day is out of range for month"
  | .hour => "hour must be in 0..23"
  | .minute => "minute must be in 0..59"
  | .second => "second must be in 0..59"
  | .offset minutes =>
    "offset must be a timedelta strictly between -timedelta(hours=24) and " ++
      "timedelta(hours=24), not " ++ showSpan minutes ++ "."

end Mailroom
