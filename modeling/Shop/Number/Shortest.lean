/-!
# Shortest decimal digits

The fewest decimal digits that read back as a given double.  A double is the exact value
`m * 2 ^ q`; every real between the midpoints to its neighbours rounds to it, the midpoints
themselves included exactly when `m` is even.  For one, two, … seventeen digits the two neighbours
of the value on that decimal grid are tested against this interval in exact arithmetic: the first
grid with a hit gives the digits, and of two hits the nearer one.
-/

namespace Shop
namespace Number

/-- A finite non-negative double: `mantissa * 2 ^ exponent`, and whether the double below it is
only half a step away. -/
structure Binary where
  mantissa : Nat
  exponent : Int
  narrowBelow : Bool

/-- What the bits of a double stand for. -/
inductive Decoded where
  | nan
  | infinite (negative : Bool)
  | finite (negative : Bool) (magnitude : Binary)

/-- Read the sign, exponent and fraction fields of a double. -/
def decode (x : Float) : Decoded :=
  let bits : Nat := x.toBits.toNat
  let negative := bits / Nat.pow 2 63 == 1
  let field : Nat := bits / Nat.pow 2 52 % Nat.pow 2 11
  let fraction : Nat := bits % Nat.pow 2 52
  if field == 2047 then
    if fraction == 0 then .infinite negative else .nan
  else if field == 0 then .finite negative ⟨fraction, -1074, false⟩
  else .finite negative ⟨Nat.pow 2 52 + fraction, (field : Int) - 1075, fraction == 0 && 1 < field⟩

/-- Decimal digits read as one number, times a power of ten. -/
structure Decimal where
  digits : Nat
  exponent : Int
  deriving Repr, DecidableEq

/-- Drop the trailing zeros of the digits; the value stays. -/
def Decimal.strip (fuel : Nat) (d : Decimal) : Decimal :=
  match fuel with
  | 0 => d
  | fuel + 1 =>
    if d.digits % 10 = 0 ∧ d.digits ≠ 0 then strip fuel ⟨d.digits / 10, d.exponent + 1⟩ else d

def tenPow (e : Int) : Nat × Nat :=
  if 0 ≤ e then (Nat.pow 10 e.toNat, 1) else (1, Nat.pow 10 (-e).toNat)

/-- The exact interval of reals that round to a double, over one denominator. -/
structure Interval where
  low : Nat
  value : Nat
  high : Nat
  den : Nat
  closed : Bool

def Binary.interval (b : Binary) : Interval :=
  let low := 4 * b.mantissa - if b.narrowBelow then 1 else 2
  let q := b.exponent - 2
  let up := Nat.pow 2 q.toNat
  ⟨low * up, 4 * b.mantissa * up, (4 * b.mantissa + 2) * up, Nat.pow 2 (-q).toNat,
    b.mantissa % 2 == 0⟩

def Interval.holds (i : Interval) (d : Decimal) : Bool :=
  let (num, den) := tenPow d.exponent
  let left := d.digits * num * i.den
  let low := i.low * den
  let high := i.high * den
  if i.closed then low ≤ left && left ≤ high else low < left && left < high

/-- Twice the distance of a decimal from the value of the interval, scaled by both denominators. -/
def Interval.distance (i : Interval) (d : Decimal) : Nat :=
  let (num, den) := tenPow d.exponent
  (((d.digits * num * i.den : Nat) : Int) - ((i.value * den : Nat) : Int)).natAbs

/-- The number of decimal places before the point: the least `k` in `ks` with `value < 10 ^ k`. -/
def Interval.places (i : Interval) : List Int → Int
  | [] => 0
  | k :: ks =>
    let (num, den) := tenPow k
    if i.value * den < num * i.den then k else i.places ks

def Interval.neighbours (i : Interval) (e : Int) : Decimal × Decimal :=
  let (num, den) := tenPow e
  let below := i.value * den / (num * i.den)
  (⟨below, e⟩, ⟨below + 1, e⟩)

/-- The first grid, from coarse to fine, with a neighbour inside the interval. -/
def Interval.search (i : Interval) : List Int → Decimal
  | [] => ⟨0, 0⟩
  | e :: es =>
    let (below, above) := i.neighbours e
    match i.holds below, i.holds above with
    | true, false => below
    | false, true => above
    | false, false => i.search es
    | true, true =>
      let toBelow := i.distance below
      let toAbove := i.distance above
      if toBelow < toAbove then below
      else if toAbove < toBelow then above
      else if below.digits % 2 = 0 then below else above

/-- The shortest decimal that reads back as the double. -/
def Binary.shortest (b : Binary) : Decimal :=
  if b.mantissa = 0 then ⟨0, 0⟩
  else
    let i := b.interval
    let estimate := ((b.mantissa.log2 : Int) + b.exponent) * 1233 / 4096
    let k := i.places [estimate - 1, estimate, estimate + 1, estimate + 2]
    (i.search ((List.range 17).map fun n : Nat => k - 1 - (n : Int))).strip 20

structure Layout where
  integerPlaces : Int
  /-- The most zeros between the point and the first digit in positional notation. -/
  leadingZeros : Int
  /-- Written after a positional number without fraction. -/
  wholeSuffix : String
  /-- Written before a positive exponent. -/
  exponentSign : String

/-- Digits with a point after the first, unless it is the only one. -/
def pointed : List Char → List Char
  | [] => []
  | [d] => [d]
  | d :: ds => d :: '.' :: ds

def Layout.write (layout : Layout) (d : Decimal) : String :=
  let ds := Nat.toDigits 10 d.digits
  let places := (ds.length : Int) + d.exponent
  if d.digits = 0 then "0" ++ layout.wholeSuffix
  else if 0 ≤ d.exponent && places ≤ layout.integerPlaces then
    String.ofList (ds ++ List.replicate d.exponent.toNat '0') ++ layout.wholeSuffix
  else if 0 < places && places ≤ layout.integerPlaces then
    String.ofList (ds.take places.toNat ++ '.' :: ds.drop places.toNat)
  else if places ≤ 0 && -places ≤ layout.leadingZeros then
    String.ofList ('0' :: '.' :: List.replicate (-places).toNat '0' ++ ds)
  else
    let e := places - 1
    let sign := if e < 0 then "-" else layout.exponentSign
    String.ofList (pointed ds) ++ "e" ++ sign ++ toString e.natAbs

/-- A double in its layout; `other` is written for the values that are no numbers. -/
def Layout.writeFloat (layout : Layout) (other : String) (x : Float) : String :=
  match decode x with
  | .nan => other
  | .infinite _ => other
  | .finite negative b => (if negative then "-" else "") ++ layout.write b.shortest

end Number
end Shop
