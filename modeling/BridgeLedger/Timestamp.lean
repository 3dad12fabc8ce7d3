/-!
# Instants and calendar dates

An instant is a number of microseconds since the year 2000 began. It is written as a date of the proleptic Gregorian
calendar, with a year 0, and the time of day. The fraction is left out, or has three digits, or six: as few as hold it.
Years 0 to 9999 have four digits; any other carries its sign.
-/

namespace BridgeLedger

structure Timestamp where
  micros : Int
deriving DecidableEq, Repr

/-- A day of the calendar. The year counts from 1 BC as 0. -/
structure CivilDate where
  year : Int
  month : Nat
  day : Nat
deriving DecidableEq, Repr

/-- The day that lies `days` days after the first of January 2000.

Counted from the first of March of year 0, the leap day is the last day of its year and the calendar repeats every
400 years of 146097 days, so the year, the month and the day each come from one division. -/
def CivilDate.ofDays (days : Int) : CivilDate :=
  let sinceMarch := days + 730425
  let cycle := sinceMarch / 146097
  let dayOfCycle := (sinceMarch % 146097).toNat
  let yearOfCycle := (dayOfCycle - dayOfCycle / 1460 + dayOfCycle / 36524 - dayOfCycle / 146096) / 365
  let dayOfYear := dayOfCycle - (365 * yearOfCycle + yearOfCycle / 4 - yearOfCycle / 100)
  let monthFromMarch := (5 * dayOfYear + 2) / 153
  let month := if monthFromMarch < 10 then monthFromMarch + 3 else monthFromMarch - 9
  { year := 400 * cycle + yearOfCycle + (if month ≤ 2 then 1 else 0)
    month
    day := dayOfYear - (153 * monthFromMarch + 2) / 5 + 1 }

def lastDigits : (width n : Nat) → List Char
  | 0, _ => []
  | width + 1, n => lastDigits width (n / 10) ++ [Nat.digitChar (n % 10)]

/-- All decimal digits of `n`, and leading zeros up to `width` digits. -/
def paddedDigits (width n : Nat) : List Char :=
  let digits := Nat.toDigits 10 n
  List.replicate (width - digits.length) '0' ++ digits

def CivilDate.yearText (date : CivilDate) : List Char :=
  if 0 ≤ date.year ∧ date.year ≤ 9999 then lastDigits 4 date.year.toNat
  else (if date.year < 0 then '-' else '+') :: paddedDigits 4 date.year.natAbs

def fractionText (micros : Nat) : List Char :=
  if micros = 0 then []
  else if micros % 1000 = 0 then '.' :: lastDigits 3 (micros / 1000)
  else '.' :: lastDigits 6 micros

namespace Timestamp

def microsPerDay : Nat := 86400000000

def date (t : Timestamp) : CivilDate := CivilDate.ofDays (t.micros / microsPerDay)

def timeOfDay (t : Timestamp) : Nat := (t.micros % microsPerDay).toNat

/-- The instant as `2024-01-31T12:34:56`, and a fraction if there is one. -/
def text (t : Timestamp) : String :=
  let date := t.date
  let seconds := t.timeOfDay / 1000000
  String.ofList <|
    date.yearText ++ '-' :: lastDigits 2 date.month ++ '-' :: lastDigits 2 date.day ++
      'T' :: lastDigits 2 (seconds / 3600) ++ ':' :: lastDigits 2 (seconds / 60 % 60) ++
      ':' :: lastDigits 2 (seconds % 60) ++ fractionText (t.timeOfDay % 1000000)

/-- The instant as `[2024-01-31][12:34:56]`. -/
def stamp (t : Timestamp) : String :=
  let date := t.date
  let seconds := t.timeOfDay / 1000000
  String.ofList <|
    '[' :: date.yearText ++ '-' :: lastDigits 2 date.month ++ '-' :: lastDigits 2 date.day ++
      ']' :: '[' :: lastDigits 2 (seconds / 3600) ++ ':' :: lastDigits 2 (seconds / 60 % 60) ++
      ':' :: lastDigits 2 (seconds % 60) ++ [']']

end Timestamp

end BridgeLedger
