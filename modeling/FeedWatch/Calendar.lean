import FeedWatch.Number.Word

/-!
# Dates and times

A moment is a date and a time of day with an offset from universal time.  Moments come from their
parts, which are checked, the offset first and then from the year down to the microsecond, or from a
count of microseconds since the start of 1970.
-/

namespace FeedWatch

/-- A date and time of day, `offset` minutes ahead of universal time. -/
structure Moment where
  year : Nat
  month : Nat
  day : Nat
  hour : Nat
  minute : Nat
  second : Nat
  micro : Nat
  offset : Int
deriving DecidableEq

/-- Why parts make no date and time. -/
inductive MomentError
  | year (year : Int)
  | month
  | day
  | hour
  | minute
  | second
  | micro
  /-- A day or more ahead of universal time, or behind it. -/
  | offset (minutes : Int)
  /-- More days ahead of universal time than can be counted, or behind it. -/
  | offsetDays (days : Int)
  | offsetTooLarge
  /-- A part that does not fit into a word: half a long one, or a long one. -/
  | aboveWord
  | belowWord
  | beyondLongWord
deriving DecidableEq

/-- A span of minutes as days and the seconds of the day behind them. -/
def spanText (minutes : Int) : String :=
  let seconds := minutes % 1440 * 60
  "datetime.timedelta(days=" ++ toString (minutes / 1440) ++
    (if seconds = 0 then "" else ", seconds=" ++ toString seconds) ++ ")"

/-- The wording of the refusal. -/
def MomentError.message : MomentError → String
  | year y => "year " ++ toString y ++ " is out of range"
  | month => "month must be in 1..12"
  | day => "day is out of range for month"
  | hour => "hour must be in 0..23"
  | minute => "minute must be in 0..59"
  | second => "second must be in 0..59"
  | micro => "microsecond must be in 0..999999"
  | offset minutes =>
    "offset must be a timedelta strictly between -timedelta(hours=24) and timedelta(hours=24), " ++
      "not " ++ spanText minutes ++ "."
  | offsetDays days => "days=" ++ toString days ++ "; must have magnitude <= 999999999"
  | offsetTooLarge => "Python int too large to convert to C int"
  | aboveWord => "signed integer is greater than maximum"
  | belowWord => "signed integer is less than minimum"
  | beyondLongWord => "Python int too large to convert to C long"

/-- Whether a year has a leap day. -/
def isLeapYear (year : Nat) : Bool := year % 4 == 0 && (year % 100 != 0 || year % 400 == 0)

/-- The number of days in a month. -/
def daysInMonth (year month : Nat) : Nat :=
  if month = 2 then if isLeapYear year then 29 else 28
  else if month = 4 || month = 6 || month = 9 || month = 11 then 30
  else 31

/-- Whether a part is refused because it cannot be held at all. -/
def MomentError.isOverflow : MomentError → Bool
  | offsetDays _ | offsetTooLarge | aboveWord | belowWord | beyondLongWord => true
  | _ => false

namespace Moment

/-- Refuses an offset of a day or more. -/
def checkOffset (minutes : Int) : Except MomentError Unit := do
  let days := minutes / 1440
  if !fitsWord days then throw .offsetTooLarge
  if days < -999999999 || 999999999 < days then throw (.offsetDays days)
  if minutes ≤ -1440 || 1440 ≤ minutes then throw (.offset minutes)

/-- Refuses a part that does not fit into a word. -/
def checkWord (part : Int) : Except MomentError Unit := do
  if !fitsLongWord part then throw .beyondLongWord
  if wordLimit ≤ part then throw .aboveWord
  if !fitsWord part then throw .belowWord

/-- The moment with the given parts.  The offset is checked first; then every part must fit into a
word, and only then the first part out of its range is refused. -/
def ofParts? (year month day hour minute second micro offset : Int) :
    Except MomentError Moment := do
  checkOffset offset
  [year, month, day, hour, minute, second, micro].forM checkWord
  if year < 1 || 9999 < year then throw (.year year)
  if month < 1 || 12 < month then throw .month
  if day < 1 || (daysInMonth year.toNat month.toNat : Int) < day then throw .day
  if hour < 0 || 23 < hour then throw .hour
  if minute < 0 || 59 < minute then throw .minute
  if second < 0 || 59 < second then throw .second
  if micro < 0 || 999999 < micro then throw .micro
  return {
    year := year.toNat, month := month.toNat, day := day.toNat, hour := hour.toNat
    minute := minute.toNat, second := second.toNat, micro := micro.toNat, offset }

/-- The year, month and day that lie a number of days after the start of March of the year zero.
Counting years from March puts the leap day last. -/
def civil (days : Nat) : Nat × Nat × Nat :=
  let era := days / 146097
  let dayOfEra := days % 146097
  let yearOfEra := (dayOfEra - dayOfEra / 1460 + dayOfEra / 36524 - dayOfEra / 146096) / 365
  let dayOfYear := dayOfEra - (365 * yearOfEra + yearOfEra / 4 - yearOfEra / 100)
  let monthFromMarch := (5 * dayOfYear + 2) / 153
  let day := dayOfYear - (153 * monthFromMarch + 2) / 5 + 1
  let month := if monthFromMarch < 10 then monthFromMarch + 3 else monthFromMarch - 9
  let year := yearOfEra + era * 400 + (if month ≤ 2 then 1 else 0)
  (year, month, day)

/-- The days from the start of March of the year zero to the start of 1970. -/
def daysTo1970 : Nat := 719468

/-- The moment in universal time a number of microseconds after the start of 1970. -/
def ofMicros (micros : Int) : Moment :=
  let micro := (micros % 1000000).toNat
  let seconds := micros / 1000000
  let ofDay := (seconds % 86400).toNat
  let (year, month, day) := civil (seconds / 86400 + daysTo1970).toNat
  { year, month, day, hour := ofDay / 3600, minute := ofDay / 60 % 60, second := ofDay % 60
    micro, offset := 0 }

/-- A number padded with zeros to a width. -/
def padded (width n : Nat) : String :=
  let digits := Nat.toDigits 10 n
  String.ofList (List.replicate (width - digits.length) '0' ++ digits)

private def clock (m : Moment) : String :=
  padded 2 m.hour ++ ":" ++ padded 2 m.minute ++ ":" ++ padded 2 m.second

private def monthAndDay (m : Moment) : String := padded 2 m.month ++ "-" ++ padded 2 m.day

/-- The offset as hours and minutes. -/
def offsetText (m : Moment) : String :=
  (if m.offset < 0 then "-" else "+") ++ padded 2 (m.offset.natAbs / 60) ++ ":" ++
    padded 2 (m.offset.natAbs % 60)

/-- The moment to the second, with its offset. -/
def toSeconds (m : Moment) : String :=
  padded 4 m.year ++ "-" ++ monthAndDay m ++ "T" ++ clock m ++ offsetText m

/-- The moment with its offset, and with its microseconds if there are any. -/
def toText (m : Moment) : String :=
  padded 4 m.year ++ "-" ++ monthAndDay m ++ "T" ++ clock m ++
    (if m.micro = 0 then "" else "." ++ padded 6 m.micro) ++ offsetText m

/-- The date and time of day to the second, closed by the letter for universal time whatever the
offset. -/
def stamp (m : Moment) : String :=
  toString m.year ++ "-" ++ monthAndDay m ++ "T" ++ clock m ++ "Z"

end Moment

end FeedWatch
