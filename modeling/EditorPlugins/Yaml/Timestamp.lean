import EditorPlugins.Text.Digit
import EditorPlugins.Value.Date
import EditorPlugins.Yaml.Cursor

/-! # Timestamps

A timestamp is a day, or a day with a time. A day alone has two digits for its month and its day of
the month; in front of a time, or where a tag asks for a date, one digit is enough. The time may
have a fraction and an offset, with blanks before the offset. What is written need not be on the
calendar or on the clock, which is found out when the date is made.
-/

namespace EditorPlugins.Yaml

open Text Number

/-- One or two digits, as many as there are, and what follows. -/
def shortNumber? : List Char → Option (Nat × List Char)
  | [] => none
  | a :: cs =>
    if a.isDigit then
      match cs with
      | b :: rest =>
        if b.isDigit then some (ofDigits 10 ([a, b].filterMap digitValue?), rest)
        else some (ofDigits 10 ([a].filterMap digitValue?), cs)
      | [] => some (ofDigits 10 ([a].filterMap digitValue?), [])
    else none

/-- Exactly `count` digits, and what follows. -/
def fixedNumber? (count : Nat) (cs : List Char) : Option (Nat × List Char) :=
  let digits := cs.take count
  if digits.length = count && digits.all Char.isDigit then
    some (ofDigits 10 (digits.filterMap digitValue?), cs.drop count)
  else none

def after? (sign : Char) : List Char → Option (List Char)
  | [] => none
  | c :: cs => if c = sign then some cs else none

def plainDay? (cs : List Char) : Option Date := do
  let (year, cs) ← fixedNumber? 4 cs
  let (month, cs) ← fixedNumber? 2 (← after? '-' cs)
  let (day, cs) ← fixedNumber? 2 (← after? '-' cs)
  if cs.isEmpty then some ⟨year, month, day, none⟩ else none

/-- A day alone, of whose month and day of the month one digit is enough. -/
def shortDay? (cs : List Char) : Option Date := do
  let (year, cs) ← fixedNumber? 4 cs
  let (month, cs) ← shortNumber? (← after? '-' cs)
  let (day, cs) ← shortNumber? (← after? '-' cs)
  if cs.isEmpty then some ⟨year, month, day, none⟩ else none

def isSpacing (c : Char) : Bool := c = ' ' || c = '\t'

/-- What separates a day from its time: a letter or blanks. -/
def betweenDayAndTime? : List Char → Option (List Char)
  | 'T' :: cs => some cs
  | 't' :: cs => some cs
  | c :: cs => if isSpacing c then some (cs.dropWhile isSpacing) else none
  | [] => none

/-- The microseconds of a fraction, whose further digits are dropped. -/
def microseconds (digits : List Char) : Nat :=
  let kept := (digits.take 6).filterMap digitValue?
  ofDigits 10 (kept ++ List.replicate (6 - kept.length) 0)

/-- A fraction behind a point, if there is one, and what follows. -/
def fraction : List Char → Nat × List Char
  | '.' :: cs => (microseconds (cs.takeWhile Char.isDigit), cs.dropWhile Char.isDigit)
  | cs => (0, cs)

/-- The minutes of an offset behind its sign; they may be left out. -/
def offsetMinutes? (cs : List Char) : Option Nat := do
  let (hours, cs) ← shortNumber? cs
  if cs.isEmpty then return 60 * hours
  let (minutes, cs) ← fixedNumber? 2 (← after? ':' cs)
  if cs.isEmpty then some (60 * hours + minutes) else none

def offset? (cs : List Char) : Option (Option Int) :=
  if cs.isEmpty then some none
  else
    match cs.dropWhile isSpacing with
    | ['Z'] => some (some 0)
    | '+' :: cs => (offsetMinutes? cs).map fun minutes => some (minutes : Int)
    | '-' :: cs => (offsetMinutes? cs).map fun minutes => some (-(minutes : Int))
    | _ => none

def timedDay? (cs : List Char) : Option Date := do
  let (year, cs) ← fixedNumber? 4 cs
  let (month, cs) ← shortNumber? (← after? '-' cs)
  let (day, cs) ← shortNumber? (← after? '-' cs)
  let (hour, cs) ← shortNumber? (← betweenDayAndTime? cs)
  let (minute, cs) ← fixedNumber? 2 (← after? ':' cs)
  let (second, cs) ← fixedNumber? 2 (← after? ':' cs)
  let (microsecond, cs) := fraction cs
  return ⟨year, month, day, some ⟨hour, minute, second, microsecond, ← offset? cs⟩⟩

/-- The date that a text writes, be it on the calendar or not. -/
def writtenDate? (cs : List Char) : Option Date := (plainDay? cs).or (timedDay? cs)

/-- A text without the feed that it ends in, if it does. -/
def withoutFeed (cs : List Char) : List Char :=
  if cs.getLast? = some '\n' then cs.dropLast else cs

/-- The date that a text writes where a tag asks for one. -/
def askedDate? (cs : List Char) : Option Date :=
  let cs := withoutFeed cs
  (shortDay? cs).or (timedDay? cs)

def checkOffset (time : ClockTime) : Read Unit :=
  match time.offset with
  | some offset =>
    if offset.natAbs < 1440 then .ok ()
    else
      .error <| .value <|
        "offset must be a timedelta strictly between -timedelta(hours=24) and " ++
          "timedelta(hours=24), not " ++ minutesLiteral offset ++ "."
  | none => .ok ()

/-- Refuse a day that the calendar does not have. -/
def checkDay (date : Date) : Read Unit :=
  if date.year = 0 then .error (.value "year 0 is out of range")
  else if date.month = 0 || 12 < date.month then .error (.value "month must be in 1..12")
  else if date.day = 0 || daysIn date.year date.month < date.day then
    .error (.value "day is out of range for month")
  else .ok ()

def checkTime (time : ClockTime) : Read Unit :=
  if 23 < time.hour then .error (.value "hour must be in 0..23")
  else if 59 < time.minute then .error (.value "minute must be in 0..59")
  else if 59 < time.second then .error (.value "second must be in 0..59")
  else .ok ()

def checkedDate (date : Date) : Read Date := do
  match date.time with
  | none => checkDay date
  | some time =>
    checkOffset time
    checkDay date
    checkTime time
  return date

end EditorPlugins.Yaml
