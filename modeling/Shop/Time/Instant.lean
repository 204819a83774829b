/-!
# Instants

A point of time as whole seconds since the start of 1970 in UTC and nanoseconds within the second.
A leap second is the second before it with a thousand million nanoseconds more, so instants are
ordered by their two parts.  The civil calendar is the Gregorian one, extended both ways.
-/

namespace Shop

structure Instant where
  seconds : Int
  nanos : Nat
  deriving Repr, DecidableEq, Inhabited

namespace Instant

def before (a b : Instant) : Bool :=
  decide (a.seconds < b.seconds ∨ (a.seconds = b.seconds ∧ a.nanos < b.nanos))

end Instant

namespace Time

structure Date where
  year : Int
  month : Nat
  day : Nat
  deriving Repr, DecidableEq

def isLeapYear (year : Int) : Bool :=
  year % 4 == 0 && (year % 100 != 0 || year % 400 == 0)

def monthLength (year : Int) (month : Nat) : Nat :=
  match month with
  | 2 => if isLeapYear year then 29 else 28
  | 4 | 6 | 9 | 11 => 30
  | _ => 31

def daysBeforeMonth (month : Nat) : Int :=
  (153 * (((month + 9) % 12 : Nat) : Int) + 2) / 5

def Date.toDays (d : Date) : Int :=
  let y := if d.month ≤ 2 then d.year - 1 else d.year
  365 * y + y / 4 - y / 100 + y / 400 + daysBeforeMonth d.month + d.day - 719469

/-- The date a number of days after the start of 1970. -/
def Date.ofDays (days : Int) : Date :=
  let z := days + 719468
  let era := z / 146097
  let doe := z % 146097
  let yoe := (doe - doe / 1460 + doe / 36524 - doe / 146096) / 365
  let doy := doe - (365 * yoe + yoe / 4 - yoe / 100)
  let mp := (5 * doy + 2) / 153
  let month := if mp < 10 then mp + 3 else mp - 9
  let year := yoe + era * 400 + (if month ≤ 2 then 1 else 0)
  ⟨year, month.toNat, (doy - (153 * mp + 2) / 5 + 1).toNat⟩

def minYear : Int := -262143

def maxYear : Int := 262142

/-- The date of a year, month and day, if there is one. -/
def Date.of? (year : Int) (month day : Nat) : Option Date :=
  if minYear ≤ year ∧ year ≤ maxYear ∧ 1 ≤ month ∧ month ≤ 12 ∧ 1 ≤ day ∧
      day ≤ monthLength year month then
    some ⟨year, month, day⟩
  else none

def daySeconds : Int := 86400

end Time

namespace Instant

def date (t : Instant) : Time.Date :=
  Time.Date.ofDays (t.seconds / Time.daySeconds)

def addSeconds (t : Instant) (n : Int) : Instant :=
  ⟨t.seconds + n, t.nanos⟩

def ofDate (d : Time.Date) : Instant :=
  ⟨d.toDays * Time.daySeconds, 0⟩

end Instant
end Shop
