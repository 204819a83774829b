/-!
# Binary fractions of bounded precision

Quotients and products as they come out where only so many significant bits are kept, in exact
arithmetic on natural numbers.  A binary fraction is a numerator over a power of two, and every
rounding goes to the nearest, a tie to the even neighbour.
-/

namespace Shop
namespace Number

/-- The natural number nearest to a quotient; a tie goes to the even one. -/
def roundHalfEven (num den : Nat) : Nat :=
  let q := num / den
  let r := num % den
  if 2 * r < den then q else if den < 2 * r then q + 1 else q + q % 2

/-- The natural number nearest to a quotient; a tie goes up. -/
def roundHalfUp (num den : Nat) : Nat :=
  (2 * num + den) / (2 * den)

/-- The number with at most `bits` significant bits that is nearest to `n`. -/
def roundBits (bits n : Nat) : Nat :=
  let unit := Nat.pow 2 (n.log2 + 1 - bits)
  roundHalfEven n unit * unit

structure Rounded where
  num : Nat
  places : Nat
  deriving Repr, DecidableEq

namespace Rounded

/-- How many places a quotient needs to show `bits` significant bits. -/
def placesFor (bits num den : Nat) : Nat :=
  let places := bits - 1 + den.log2 - num.log2
  if num * Nat.pow 2 places < Nat.pow 2 (bits - 1) * den then places + 1 else places

def ofQuotient (bits num den : Nat) : Rounded :=
  let places := placesFor bits num den
  ⟨roundHalfEven (num * Nat.pow 2 places) den, places⟩

def scale (bits n : Nat) (b : Rounded) : Rounded :=
  ⟨roundBits bits (n * b.num), b.places⟩

/-- A sum of two fractions over the same power of two, with `bits` significant bits. -/
def add (bits : Nat) (a b : Rounded) : Rounded :=
  ⟨roundBits bits (a.num + b.num), a.places⟩

/-- The nearest natural number; a tie goes up. -/
def round (b : Rounded) : Nat := roundHalfUp b.num (Nat.pow 2 b.places)

/-- The least natural number that is not less. -/
def ceil (b : Rounded) : Nat := (b.num + (Nat.pow 2 b.places - 1)) / Nat.pow 2 b.places

end Rounded
end Number
end Shop
