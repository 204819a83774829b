import Shop.Refusal

/-!
# The variant limit

An option set stands for as many products as there are choices of one value from each option.  A
root may not have more than `maxVariants` products.  The number is multiplied up from the first
option to the last in 64 bits, so an intermediate product may leave them before a later factor of
zero; such a set is turned down without naming its number.
-/

namespace Shop
namespace Variant

/-- The most products one root may have. -/
def maxVariants : Nat := 1000

/-- One more than the largest number of products that can be counted. -/
def countBound : Nat := Nat.pow 2 64

/-- Multiply, unless the product cannot be counted. -/
def checkedMul (a b : Nat) : Option Nat :=
  if a * b < countBound then some (a * b) else none

/-- The number of choices from options of given sizes, multiplied up from the left. -/
def count (sizes : List Nat) : Option Nat :=
  sizes.foldlM checkedMul 1

/-- The number of choices, if a root may have as many products. -/
def ensureLimit (sizes : List Nat) : Except Refusal Nat :=
  match count sizes with
  | some n =>
    if n ≤ maxVariants then .ok n
    else .error (.invalid ("options would produce " ++ toString n ++ " products; at most " ++
      toString maxVariants ++ " are allowed"))
  | none =>
    .error (.invalid ("options would produce more than " ++ toString maxVariants ++ " products"))

end Variant
end Shop
