import EditorPlugins.Number.Decimal

/-! # Dates

A date is a day of the calendar, perhaps with a time on that day. The time may say by how many
minutes its clock runs before universal time, and dates that do are compared by universal time.
-/

namespace EditorPlugins

open Number

/-- A time on some day; the offset counts minutes. -/
structure ClockTime where
  hour : Nat
  minute : Nat
  second : Nat
  microsecond : Nat
  offset : Option Int
deriving DecidableEq, Repr

/-- A day of the calendar, perhaps with a time on it. -/
structure Date where
  year : Nat
  month : Nat
  day : Nat
  time : Option ClockTime
deriving DecidableEq, Repr

def daysIn (year month : Nat) : Nat :=
  if month = 2 then
    if year % 4 = 0 && (year % 100 ≠ 0 || year % 400 = 0) then 29 else 28
  else if month = 4 || month = 6 || month = 9 || month = 11 then 30
  else 31

/-- A number with at least `width` digits. -/
def padded (width n : Nat) : String :=
  let digits := natDigits n
  String.ofList (List.replicate (width - digits.length) '0' ++ digits)

/-- The literal of a span of minutes: its days, and the seconds of the last day. -/
def minutesLiteral (minutes : Int) : String :=
  let days := minutes.fdiv 1440
  let seconds := minutes.fmod 1440 * 60
  let parts :=
    (if days = 0 then [] else ["days=" ++ intText days]) ++
      (if seconds = 0 then [] else ["seconds=" ++ intText seconds])
  "datetime.timedelta(" ++ (if parts.isEmpty then "0" else ", ".intercalate parts) ++ ")"

namespace ClockTime

/-- An offset as a sign, hours and minutes. -/
def offsetText (offset : Int) : String :=
  let minutes := offset.natAbs
  (if offset < 0 then "-" else "+") ++ padded 2 (minutes / 60) ++ ":" ++ padded 2 (minutes % 60)

/-- A time with its greatest unit first; the fraction of a second is left out when there is none. -/
def text (time : ClockTime) : String :=
  padded 2 time.hour ++ ":" ++ padded 2 time.minute ++ ":" ++ padded 2 time.second ++
    (if time.microsecond = 0 then "" else "." ++ padded 6 time.microsecond) ++
    (time.offset.map offsetText).getD ""

/-- The numbers of a time; seconds and fractions at the end are left out when there are none. -/
def numbers (time : ClockTime) : List Nat :=
  [time.hour, time.minute] ++
    (if time.microsecond ≠ 0 then [time.second, time.microsecond]
      else if time.second ≠ 0 then [time.second] else [])

def offsetLiteral (offset : Int) : String :=
  if offset = 0 then "datetime.timezone.utc"
  else "datetime.timezone(" ++ minutesLiteral offset ++ ")"

end ClockTime

namespace Date

/-- The day of a date with its greatest unit first. -/
def dayText (date : Date) : String :=
  padded 4 date.year ++ "-" ++ padded 2 date.month ++ "-" ++ padded 2 date.day

/-- A date with its greatest unit first, with some text between the day and the time. -/
def textWith (between : String) (date : Date) : String :=
  match date.time with
  | none => date.dayText
  | some time => date.dayText ++ between ++ time.text

def literal (date : Date) : String :=
  let numbers (parts : List Nat) := ", ".intercalate (parts.map natText)
  match date.time with
  | none => "datetime.date(" ++ numbers [date.year, date.month, date.day] ++ ")"
  | some time =>
    "datetime.datetime(" ++ numbers ([date.year, date.month, date.day] ++ time.numbers) ++
      ((time.offset.map fun offset => ", tzinfo=" ++ ClockTime.offsetLiteral offset).getD "") ++ ")"

/-- The days of the calendar up to a day. -/
def dayNumber (date : Date) : Nat :=
  let years := date.year - 1
  let before := (List.range' 1 (date.month - 1)).foldl (fun days m => days + daysIn date.year m) 0
  365 * years + years / 4 - years / 100 + years / 400 + before + date.day

/-- How far into the calendar a date lies: in days, or with a time in microseconds, by universal
time if its clock has an offset. -/
def instant (date : Date) : Int :=
  match date.time with
  | none => date.dayNumber
  | some time =>
    let minutes : Int :=
      (date.dayNumber * 24 + time.hour) * 60 + time.minute - time.offset.getD 0
    (minutes * 60 + time.second) * 1000000 + time.microsecond

/-- Whether a date has an order with another one: both are days, or both have a time, with an offset
or without. -/
def isComparable (a b : Date) : Bool :=
  match a.time, b.time with
  | none, none => true
  | some s, some t => s.offset.isSome = t.offset.isSome
  | _, _ => false

def same (a b : Date) : Bool := a.isComparable b && a.instant = b.instant

end Date

end EditorPlugins
