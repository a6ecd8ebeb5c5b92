/-!
The proleptic Gregorian calendar: dates and the days counted from 1970-01-01.

Both directions work in eras of 400 years, which all have the same number of days, and count the
months from March so that the odd day of a leap year comes last.
-/

namespace Gatehouse.Calendar

/-- A day of the calendar. -/
structure Date where
  year : Int
  month : Nat
  day : Nat
deriving DecidableEq, Repr

/-- Whether a year has a 29th of February. -/
def isLeap (y : Int) : Bool :=
  y % 4 == 0 && (y % 100 != 0 || y % 400 == 0)

/-- The number of days of a month; none of a month that does not exist. -/
def daysIn (y : Int) (m : Nat) : Nat :=
  match m with
  | 1 | 3 | 5 | 7 | 8 | 10 | 12 => 31
  | 4 | 6 | 9 | 11 => 30
  | 2 => if isLeap y then 29 else 28
  | _ => 0

/-- Whether a date exists. -/
def Date.exists (d : Date) : Bool :=
  1 ≤ d.day && d.day ≤ daysIn d.year d.month

/-- The days of an era of 400 years. -/
def eraDays : Int := 146097

/-- The days from 0000-03-01, where the eras begin, to 1970-01-01. -/
def epochDays : Int := 719468

/-- The days from 1970-01-01 to a date, negative before it. -/
def Date.toDays (d : Date) : Int :=
  let y := if d.month ≤ 2 then d.year - 1 else d.year
  let era := y / 400
  let yoe := y - era * 400
  let doy : Int := (153 * ((d.month + 9) % 12) + 2) / 5 + d.day - 1
  era * eraDays + (yoe * 365 + yoe / 4 - yoe / 100 + doy) - epochDays

/-- The date that lies a number of days after 1970-01-01. -/
def Date.ofDays (n : Int) : Date :=
  let z := n + epochDays
  let era := z / eraDays
  let doe := z - era * eraDays
  let yoe := (doe - doe / 1460 + doe / 36524 - doe / 146096) / 365
  let doy := doe - (365 * yoe + yoe / 4 - yoe / 100)
  let mp := (5 * doy + 2) / 153
  let day := doy - (153 * mp + 2) / 5 + 1
  let month := if mp < 10 then mp + 3 else mp - 9
  let y := yoe + era * 400
  ⟨if month ≤ 2 then y + 1 else y, month.toNat, day.toNat⟩

end Gatehouse.Calendar
