import Shop.Number.Integer
import Shop.Text.Blank
import Shop.Time.Instant

/-!
# Timestamps

The text of an instant: `year-month-dayThour:minute:secondZ`, with as many groups of three decimals
of the second as it needs.  Reading is more generous than writing: blanks may stand between the
parts, the `T` may be small or a space, a year beyond four digits may carry a sign, digits beyond
nanoseconds are dropped, and any offset is taken off.  A text is refused at the first part that
does not fit, whether by form or by range.
-/

namespace Shop
namespace Time

/-- Why a text is not a timestamp. -/
inductive Fault where
  | tooShort
  | invalid
  | outOfRange
  | trailing
  | impossible
  deriving Repr, DecidableEq

def Fault.message : Fault → String
  | .tooShort => "premature end of input"
  | .invalid => "input contains invalid characters"
  | .outOfRange => "input is out of range"
  | .trailing => "trailing input"
  | .impossible => "no possible date and time matching input"

/-- Read further digits after `value`, at most `width` of them. -/
def moreDigits (value : Nat) : Nat → List Char → Except Fault (Nat × List Char)
  | 0, cs => .ok (value, cs)
  | _ + 1, [] => .ok (value, [])
  | width + 1, c :: cs =>
    match Number.digit? c with
    | none => .ok (value, c :: cs)
    | some d =>
      if Nat.pow 2 63 - 1 < 10 * value + d then .error .outOfRange
      else moreDigits (10 * value + d) width cs

def digits (width : Nat) : List Char → Except Fault (Nat × List Char)
  | [] => .error .tooShort
  | c :: cs =>
    match Number.digit? c with
    | none => .error .invalid
    | some d => moreDigits d (width - 1) cs

/-- Read a number of at most two digits within bounds, after blanks. -/
def field (low high : Nat) (cs : List Char) : Except Fault (Nat × List Char) := do
  let (n, cs) ← digits 2 (Text.trimFront cs)
  if n < low ∨ high < n then throw .outOfRange
  return (n, cs)

/-- Read a year: four digits, or any number of them after a sign. -/
def year (cs : List Char) : Except Fault (Int × List Char) := do
  let (n, cs) ← match Text.trimFront cs with
    | '-' :: rest => (digits rest.length rest).map fun (n, cs) => (-(n : Int), cs)
    | '+' :: rest => (digits rest.length rest).map fun (n, cs) => ((n : Int), cs)
    | rest => (digits 4 rest).map fun (n, cs) => ((n : Int), cs)
  if n < Number.int32.low ∨ Number.int32.high < n then throw .outOfRange
  return (n, cs)

/-- Read a separator, after blanks. -/
def separator (c : Char) (cs : List Char) : Except Fault (List Char) :=
  match Text.trimFront cs with
  | [] => .error .tooShort
  | d :: rest => if c = d then .ok rest else .error .invalid

/-- Read the decimals of a second as nanoseconds. -/
def decimals (cs : List Char) : Except Fault (Nat × List Char) := do
  let (n, rest) ← digits 9 cs
  let places := cs.length - rest.length
  return (n * Nat.pow 10 (9 - places), rest.dropWhile fun c => (Number.digit? c).isSome)

def twoDigits : List Char → Except Fault ((Nat × Nat) × List Char)
  | a :: b :: cs =>
    match Number.digit? a, Number.digit? b with
    | some a, some b => .ok ((a, b), cs)
    | _, _ => .error .invalid
  | _ => .error .tooShort

def byteLength (cs : List Char) : Nat :=
  cs.foldl (fun length c => length + c.utf8Size) 0

def offsetMinutes (cs : List Char) : Except Fault (Nat × List Char) :=
  if byteLength cs < 2 then .error .tooShort
  else match cs with
  | a :: b :: rest =>
    match Number.digit? a, Number.digit? b with
    | some a, some b => if a ≤ 5 then .ok (10 * a + b, rest) else .error .outOfRange
    | _, _ => .error .invalid
  | _ => .error .invalid

/-- Read the hours and minutes of an offset, in seconds. -/
def offsetClock (cs : List Char) : Except Fault (Int × List Char) := do
  if byteLength cs < 2 then throw .tooShort
  let ((h₁, h₂), cs) ← match cs with
    | [_] => .error .invalid
    | cs => twoDigits cs
  let cs := cs.dropWhile fun c => c = ':' || Text.isBlankChar c
  let (minutes, cs) ← offsetMinutes cs
  return (((10 * h₁ + h₂) * 3600 + minutes * 60 : Nat), cs)

/-- Read an offset from UTC in seconds. -/
def offset : List Char → Except Fault (Int × List Char)
  | [] => .error .tooShort
  | 'Z' :: cs | 'z' :: cs => .ok (0, cs)
  | '+' :: cs => offsetClock cs
  | '-' :: cs | '\u2212' :: cs => (offsetClock cs).map fun (n, cs) => (-n, cs)
  | _ :: _ => .error .invalid

/-- Read the zone of a timestamp: the letters UTC or an offset. -/
def zone (cs : List Char) : Except Fault (Int × List Char) :=
  match Text.trimFront cs with
  | a :: b :: c :: rest =>
    if a.toUpper = 'U' ∧ b.toUpper = 'T' ∧ c.toUpper = 'C' then .ok (0, rest)
    else offset (a :: b :: c :: rest)
  | cs => offset cs

/-- The instant of a date, a time of day and an offset.  The sixtieth second of any minute is a
leap second. -/
def assemble (date : Date) (hour minute second nanos : Nat) (offset : Int) :
    Except Fault Instant :=
  if offset ≤ -daySeconds ∨ daySeconds ≤ offset then .error .outOfRange
  else
    let (second, nanos) := if second = 60 then (59, nanos + 1_000_000_000) else (second, nanos)
    let local_ := date.toDays * daySeconds + ((3600 * hour + 60 * minute + second : Nat) : Int)
    let t : Instant := ⟨local_ - offset, nanos⟩
    let y := t.date.year
    if y < minYear ∨ maxYear < y then .error .impossible else .ok t

end Time

namespace Instant

open Time in
def read (s : String) : Except Time.Fault Instant := do
  let (y, cs) ← year s.toList
  let cs ← separator '-' cs
  let (month, cs) ← field 1 12 cs
  let cs ← separator '-' cs
  let (day, cs) ← field 1 31 cs
  let cs ← match cs with
    | [] => .error .tooShort
    | 't' :: rest | 'T' :: rest | ' ' :: rest => .ok rest
    | _ => .error .invalid
  let (hour, cs) ← field 0 23 cs
  let cs ← separator ':' cs
  let (minute, cs) ← field 0 59 cs
  let cs ← separator ':' cs
  let (second, cs) ← field 0 60 cs
  let (nanos, cs) ← match cs with
    | '.' :: rest => decimals rest
    | cs => .ok (0, cs)
  let (off, cs) ← zone cs
  if !(Text.trimFront cs).isEmpty then throw .trailing
  match Date.of? y month day with
  | none => throw .outOfRange
  | some date => assemble date hour minute second nanos off

def padded (width n : Nat) : String :=
  let ds := Nat.toDigits 10 n
  String.ofList (List.replicate (width - ds.length) '0' ++ ds)

/-- A year; a sign marks one that has not exactly four digits. -/
def yearText (y : Int) : String :=
  if 0 ≤ y ∧ y ≤ 9999 then padded 4 y.toNat
  else (if y < 0 then "-" else "+") ++ padded 4 y.natAbs

/-- The decimals of a second in groups of three. -/
def nanosText (nanos : Nat) : String :=
  if nanos = 0 then ""
  else if nanos % 1_000_000 = 0 then "." ++ padded 3 (nanos / 1_000_000)
  else if nanos % 1000 = 0 then "." ++ padded 6 (nanos / 1000)
  else "." ++ padded 9 nanos

def text (t : Instant) : String :=
  let d := t.date
  let clock := (t.seconds % Time.daySeconds).toNat
  let (extra, nanos) := if 1_000_000_000 ≤ t.nanos then (1, t.nanos - 1_000_000_000) else (0, t.nanos)
  yearText d.year ++ "-" ++ padded 2 d.month ++ "-" ++ padded 2 d.day ++ "T" ++
    padded 2 (clock / 3600) ++ ":" ++ padded 2 (clock / 60 % 60) ++ ":" ++
    padded 2 (clock % 60 + extra) ++ nanosText nanos ++ "Z"

end Instant
end Shop
