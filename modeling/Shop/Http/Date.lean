import Shop.Number.Integer
import Shop.Time.Instant

/-!
# Dates in headers

A date of a header names a second of Greenwich time in one of three forms: with the day, the name of
the month and the year, with hyphens between them and a year of two digits, or with the year at the
end.  It is a date only if there is such a second from 1970 on and the name of the day of the week
is the right one.
-/

namespace Shop
namespace Http

/-- The names of the days of the week, from Thursday, the first day of 1970, on. -/
def weekdays : List String :=
  ["Thursday", "Friday", "Saturday", "Sunday", "Monday", "Tuesday", "Wednesday"]

def months : List String :=
  ["Jan", "Feb", "Mar", "Apr", "May", "Jun", "Jul", "Aug", "Sep", "Oct", "Nov", "Dec"]

def digits? (cs : List Char) : Option Nat :=
  if cs.isEmpty then none
  else cs.foldl (fun n c => do return 10 * (← n) + (← Number.digit? c)) (some 0)

/-- The parts of a date as they are written. -/
structure Written where
  weekday : String
  day : List Char
  month : String
  year : List Char
  time : List Char

/-- The seconds of a day at a time of hours, minutes and seconds. -/
def timeOfDay? (cs : List Char) : Option Nat :=
  match cs with
  | [h, k, ':', m, n, ':', s, t] => do
    let hour ← digits? [h, k]
    let minute ← digits? [m, n]
    let second ← digits? [s, t]
    if hour < 24 ∧ minute < 60 ∧ second < 60 then some (3600 * hour + 60 * minute + second) else none
  | _ => none

/-- The instant of a written date, if there is one.  Of a year only two digits may be given, which
stand for one from 1970 to 2069. -/
def Written.instant? (w : Written) : Option Instant := do
  let day ← digits? w.day
  let year ← digits? w.year
  let year := if w.year.length ≠ 2 then year else if year < 70 then 2000 + year else 1900 + year
  let month ← months.idxOf? w.month
  let seconds ← timeOfDay? w.time
  let date ← Time.Date.of? year (month + 1) day
  let weekday ← weekdays[(date.toDays % 7).toNat]?
  if 1970 ≤ year ∧ (w.weekday = weekday ∨ w.weekday = String.ofList (weekday.toList.take 3)) then
    some ((Instant.ofDate date).addSeconds seconds)
  else none

/-- The parts of a date whose day of the week stands in front of a comma. -/
def commaForm (weekday : String) (cs : List Char) : Option Written :=
  match cs with
  | [' ', d, e, ' ', m, n, o, ' ', y, z, v, w, ' ', h, k, c, p, q, f, s, t, ' ', 'G', 'M', 'T'] =>
    if weekday.length = 3 then
      some ⟨weekday, [d, e], String.ofList [m, n, o], [y, z, v, w], [h, k, c, p, q, f, s, t]⟩
    else none
  | [' ', d, e, '-', m, n, o, '-', y, z, ' ', h, k, c, p, q, f, s, t, ' ', 'G', 'M', 'T'] =>
    if weekdays.contains weekday then
      some ⟨weekday, [d, e], String.ofList [m, n, o], [y, z], [h, k, c, p, q, f, s, t]⟩
    else none
  | _ => none

/-- The parts of a date with the year at the end, where a blank may stand for the first digit of the
day. -/
def plainForm (cs : List Char) : Option Written :=
  match cs with
  | [a, b, c, ' ', m, n, o, ' ', d, e, ' ', h, k, x, p, q, f, s, t, ' ', y, z, v, w] =>
    some ⟨String.ofList [a, b, c], if d = ' ' then [e] else [d, e], String.ofList [m, n, o],
      [y, z, v, w], [h, k, x, p, q, f, s, t]⟩
  | _ => none

/-- The instant that a date of a header names.  Blanks around it do not matter. -/
def readDate (s : String) : Option Instant :=
  let isBlank (c : Char) := c == ' ' || c == '\t'
  let cs := ((s.toList.dropWhile isBlank).reverse.dropWhile isBlank).reverse
  let form := match cs.takeWhile (· != ','), cs.dropWhile (· != ',') with
    | weekday, _ :: rest => commaForm (String.ofList weekday) rest
    | _, [] => plainForm cs
  form.bind Written.instant?

end Http
end Shop
