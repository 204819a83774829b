/-!
# Punycode

Labels beyond ASCII written in ASCII: first the ASCII characters of the label, then, behind a hyphen,
the places of the others in the order of their code points.  The places are numbers in digits of
varying weight, so that small numbers take few digits.
-/

namespace Shop
namespace Domain

/-- A Punycode digit: letters stand for 0 to 25, ASCII digits for 26 to 35. -/
def digitChar (d : Nat) : Char :=
  if d < 26 then Char.ofNat (0x61 + d) else Char.ofNat (0x30 + d - 26)

def threshold (k bias : Nat) : Nat :=
  if k ≤ bias then 1 else if bias + 26 ≤ k then 26 else k - bias

/-- Divide a delta by 35 until it is small, counting 36 for each division. -/
def shrink (delta k : Nat) : Nat × Nat :=
  if 455 < delta then shrink (delta / 35) (k + 36) else (delta, k)
termination_by delta
decreasing_by exact Nat.div_lt_self (by omega) (by omega)

/-- The bias after a delta has been written. -/
def adapt (delta points : Nat) (first : Bool) : Nat :=
  let start := if first then delta / 700 else delta / 2
  let (small, k) := shrink (start + start / points) 0
  k + 36 * small / (small + 38)

def deltaDigits (bias k q : Nat) : List Char :=
  let t := threshold k bias
  if q < t ∨ t = 0 then [digitChar q]
  else digitChar (t + (q - t) % (36 - t)) :: deltaDigits bias (k + 36) ((q - t) / (36 - t))
termination_by q
decreasing_by
  have smaller := Nat.div_le_self (q - threshold k bias) (36 - threshold k bias)
  omega

/-- A label partly written: the digits so far, the pending delta, the bias, and how many characters
have been handled. -/
structure Encoder where
  digits : List Char
  delta : Nat
  bias : Nat
  handled : Nat

/-- Pass one character of the label while the characters of code `point` are being placed. -/
def Encoder.pass (basic point : Nat) (e : Encoder) (c : Char) : Encoder :=
  if c.toNat < point then { e with delta := e.delta + 1 }
  else if c.toNat = point then
    ⟨e.digits ++ deltaDigits e.bias 36 e.delta, 0,
      adapt e.delta (e.handled + 1) (e.handled == basic), e.handled + 1⟩
  else e

def Encoder.place (label : List Char) (basic : Nat) : List Nat → Nat → Encoder → Encoder
  | [], _, e => e
  | point :: points, from_, e =>
    let e := { e with delta := e.delta + (point - from_) * (e.handled + 1) }
    let e := label.foldl (pass basic point) e
    place label basic points (point + 1) { e with delta := e.delta + 1 }

def punycode (label : List Char) : List Char :=
  let basic := label.filter (·.toNat < 128)
  let points := ((label.filter (128 ≤ ·.toNat)).map Char.toNat).mergeSort.eraseDups
  let e := Encoder.place label basic.length points 128 ⟨[], 0, 72, basic.length⟩
  (if basic.isEmpty then [] else basic ++ ['-']) ++ e.digits

/-! ## Decoding -/

def digitValue? (c : Char) : Option Nat :=
  if 'a' ≤ c ∧ c ≤ 'z' then some (c.toNat - 0x61)
  else if '0' ≤ c ∧ c ≤ '9' then some (c.toNat - 0x30 + 26)
  else none

def maxPlace : Nat := Nat.pow 2 32 - 1

/-- Read a number from its digits, the lightest first, and return the digits behind it.  `sum` is what
the digits so far stand for, added to the place before; no sum and no weight may grow beyond the
largest place. -/
def readPlace (bias sum weight k : Nat) : List Char → Option (Nat × List Char)
  | [] => none
  | c :: cs => do
    let digit ← digitValue? c
    let sum := sum + digit * weight
    let t := threshold k bias
    guard (sum ≤ maxPlace)
    if digit < t then return (sum, cs)
    guard (weight * (36 - t) ≤ maxPlace)
    readPlace bias sum (weight * (36 - t)) (k + 36) cs

def insertAt (c : Char) (place : Nat) (label : List Char) : List Char :=
  label.take place ++ c :: label.drop place

/-- Put the characters that the digits stand for into a label, given as much fuel as there are
digits. -/
def fillLabel : Nat → List Char → Nat → Nat → Nat → List Char → Option (List Char)
  | _, [], _, _, _, label => some label
  | 0, _, _, _, _, _ => none
  | fuel + 1, digits, point, place, bias, label => do
    let (sum, rest) ← readPlace bias place 1 36 digits
    let size := label.length + 1
    let point := point + sum / size
    guard (point.isValidChar)
    fillLabel fuel rest point (sum % size + 1) (adapt (sum - place) size (place == 0))
      (insertAt (Char.ofNat point) (sum % size) label)

/-- The label that a text in Punycode stands for. -/
def readPunycode (cs : List Char) : Option (List Char) :=
  let digits := (cs.reverse.takeWhile (· != '-')).reverse
  let basic := cs.take (cs.length - digits.length - 1)
  if digits.length + 1 = cs.length then none
  else fillLabel digits.length digits 128 0 72 basic

end Domain
end Shop
