/-!
# Moments of the civil calendar

A moment is a date and a time of day to the second in the proleptic Gregorian calendar, whose years
run from -262143 to 262142. `next?` is the moment one second later, which the last moment of the
calendar lacks, and `stamp` is the text that file names start with. The form of a stamp is a list of
parts, from which its pattern is written, too.
-/

namespace SchemaForge

/-- Whether a year has a 29th of February. -/
def isLeapYear (year : Int) : Bool :=
  year % 4 == 0 && (year % 100 != 0 || year % 400 == 0)

/-- The number of days of a month. -/
def daysInMonth (year : Int) (month : Nat) : Nat :=
  if month = 2 then (if isLeapYear year then 29 else 28)
  else if month = 4 ∨ month = 6 ∨ month = 9 ∨ month = 11 then 30
  else 31

/-- The numbers name a moment of the calendar. -/
def IsMoment (year : Int) (month day hour minute second : Nat) : Prop :=
  (-262143 ≤ year ∧ year ≤ 262142) ∧ (1 ≤ month ∧ month ≤ 12) ∧
    (1 ≤ day ∧ day ≤ daysInMonth year month) ∧ hour < 24 ∧ minute < 60 ∧ second < 60

instance (year : Int) (month day hour minute second : Nat) :
    Decidable (IsMoment year month day hour minute second) := by
  unfold IsMoment; infer_instance

/-- A date and a time of day, to the second. -/
structure Moment where
  /-- The year, counted without a gap at zero. -/
  year : Int
  /-- The month, from 1. -/
  month : Nat
  /-- The day of the month, from 1. -/
  day : Nat
  /-- The hour of the day. -/
  hour : Nat
  /-- The minute of the hour. -/
  minute : Nat
  /-- The second of the minute. -/
  second : Nat
  /-- The calendar has such a moment. -/
  isMoment : IsMoment year month day hour minute second
deriving DecidableEq

namespace Moment

/-- The moment with the given numbers, if the calendar has it. -/
def of? (year : Int) (month day hour minute second : Nat) : Option Moment :=
  if h : IsMoment year month day hour minute second then
    some ⟨year, month, day, hour, minute, second, h⟩
  else
    none

/-- The moment one second later; the last moment of the calendar has none. -/
def next? (m : Moment) : Option Moment :=
  if m.second < 59 then of? m.year m.month m.day m.hour m.minute (m.second + 1)
  else if m.minute < 59 then of? m.year m.month m.day m.hour (m.minute + 1) 0
  else if m.hour < 23 then of? m.year m.month m.day (m.hour + 1) 0 0
  else if m.day < daysInMonth m.year m.month then of? m.year m.month (m.day + 1) 0 0 0
  else if m.month < 12 then of? m.year (m.month + 1) 1 0 0 0
  else of? (m.year + 1) 1 1 0 0 0

/-- The last `width` decimal digits of a number, with zeros in front. -/
def digits : Nat → Nat → List Char
  | 0, _ => []
  | width + 1, n => digits width (n / 10) ++ [Nat.digitChar (n % 10)]

/-- A year of up to four digits is written with four; any other year has a sign in front of at
least four digits. -/
def yearText (year : Int) : List Char :=
  if 0 ≤ year ∧ year ≤ 9999 then digits 4 year.toNat
  else (if year < 0 then '-' else '+') :: (Nat.toDigits 10 year.natAbs).leftpad 4 '0'

/-- A part of a stamp. -/
inductive StampPart where
  /-- The year. -/
  | year
  /-- The month. -/
  | month
  /-- The day of the month. -/
  | day
  /-- The hour. -/
  | hour
  /-- The minute. -/
  | minute
  /-- The second. -/
  | second
  /-- An underscore. -/
  | underscore

/-- What a part of a stamp shows of a moment. -/
def StampPart.text (m : Moment) : StampPart → List Char
  | year => yearText m.year
  | month => digits 2 m.month
  | day => digits 2 m.day
  | hour => digits 2 m.hour
  | minute => digits 2 m.minute
  | second => digits 2 m.second
  | underscore => ['_']

/-- How a part of a stamp is written in a pattern. -/
def StampPart.directive : StampPart → List Char
  | year => ['%', 'Y']
  | month => ['%', 'm']
  | day => ['%', 'd']
  | hour => ['%', 'H']
  | minute => ['%', 'M']
  | second => ['%', 'S']
  | underscore => ['_']

/-- The form of a stamp: year, month, day and time of day with underscores between. -/
def stampParts : List StampPart :=
  [.year, .underscore, .month, .underscore, .day, .underscore, .hour, .minute, .second]

/-- The text of a moment at the start of a file name. -/
def stamp (m : Moment) : List Char := stampParts.flatMap fun part => part.text m

/-- The pattern of a stamp. -/
def stampPattern : String := String.ofList (stampParts.flatMap StampPart.directive)

end Moment

end SchemaForge
