import Mathlib.Algebra.Order.Field.Basic
import Mathlib.Algebra.Order.Field.Rat
import Mathlib.Tactic.FieldSimp
import Mathlib.Tactic.Linarith
import Mathlib.Tactic.Ring
import Shop.Number.Rounded

/-!
# Shares to the nearest

A share of a quantity is computed with a quotient of bounded precision, and rounded to a natural
number in the end.  Each of the three roundings on the way is off by at most half of its unit.  The
units of the first two are so small that together they do not lead from one side of the middle
between two numbers to the other: exact shares have a denominator of their own, and none of them
stands that near to a middle without standing on it.  So the number that comes out is one of those
nearest to the exact share.
-/

namespace Shop
namespace Number

/-! ## Errors -/

/-- A number is not the greater one if its multiple is less than a step beyond the other's. -/
theorem le_of_mul_lt {a b : Nat} (k : Nat) (less : a * k < b * k + k) : a ≤ b := by
  rw [← Nat.succ_mul] at less
  exact Nat.le_of_lt_succ (Nat.lt_of_mul_lt_mul_right less)

/-- Whether two numbers are apart by no more than an error. -/
def Close (error a b : Nat) : Prop := a ≤ b + error ∧ b ≤ a + error

namespace Close

variable {d e a b c k m : Nat}

theorem trans (first : Close d a b) (second : Close e b c) : Close (d + e) a c := by
  rcases first with ⟨firstBelow, firstAbove⟩
  rcases second with ⟨secondBelow, secondAbove⟩
  exact ⟨by omega, by omega⟩

theorem mul (close : Close e a b) (k : Nat) : Close (k * e) (k * a) (k * b) := by
  unfold Close
  rw [← Nat.mul_add, ← Nat.mul_add]
  exact ⟨Nat.mul_le_mul_left k close.1, Nat.mul_le_mul_left k close.2⟩

/-- Multiples that are apart by less than one multiple more than an error are of numbers that are
apart by no more than the error. -/
theorem of_mul (less : k < m) (close : Close (m * e + k) (m * a) (m * b)) : Close e a b := by
  have descend {x y : Nat} (above : m * x ≤ m * y + (m * e + k)) : x ≤ y + e :=
    le_of_mul_lt m <|
      calc x * m = m * x := Nat.mul_comm x m
        _ ≤ m * y + (m * e + k) := above
        _ < m * y + (m * e + m) := by omega
        _ = (y + e) * m + m := by ring
  exact ⟨descend close.1, descend close.2⟩

end Close

/-- Whether a number is as near to a quotient as natural numbers come. -/
def Nearest (n num den : Nat) : Prop := |(n : ℚ) - num / den| ≤ 1 / 2

theorem nearest_iff {n num den : Nat} (pos : 0 < den) :
    Nearest n num den ↔ Close den (2 * (n * den)) (2 * num) := by
  have posRat : (0 : ℚ) < den := Nat.cast_pos.mpr pos
  have apart : (n : ℚ) - num / den = (n * den - num) / den := by
    field_simp
  rw [Nearest, apart, abs_div, abs_of_pos posRat, div_le_iff₀ posRat, abs_le, Close]
  constructor
  · rintro ⟨below, above⟩
    constructor
    · have scaled : (2 * (n * den) : ℚ) ≤ 2 * num + den := by linarith
      exact_mod_cast scaled
    · have scaled : (2 * num : ℚ) ≤ 2 * (n * den) + den := by linarith
      exact_mod_cast scaled
  · rintro ⟨above, below⟩
    have above : (2 * (n * den) : ℚ) ≤ 2 * num + den := by exact_mod_cast above
    have below : (2 * num : ℚ) ≤ 2 * (n * den) + den := by exact_mod_cast below
    constructor <;> linarith

/-- A number nearest to a quotient does not pass a number that the quotient does not pass. -/
theorem Nearest.le {n num den m : Nat} (nearest : Nearest n num den) (pos : 0 < den)
    (bounded : num ≤ m * den) : n ≤ m := by
  have near := ((nearest_iff pos).mp nearest).1
  exact le_of_mul_lt den (by omega)

/-- A natural number is the only one nearest to itself. -/
theorem Nearest.eq_of_mul {n den m : Nat} (nearest : Nearest n (m * den) den) (pos : 0 < den) :
    n = m := by
  have near := ((nearest_iff pos).mp nearest).2
  exact Nat.le_antisymm (nearest.le pos le_rfl) (le_of_mul_lt den (by omega))

/-! ## One rounding -/

theorem roundHalfEven_close (num : Nat) {den : Nat} (pos : 0 < den) :
    Close den (2 * (roundHalfEven num den * den)) (2 * num) := by
  have parts : num / den * den + num % den = num := Nat.div_add_mod' num den
  have rest : num % den < den := Nat.mod_lt num pos
  have next : (num / den + 1) * den = num / den * den + den := Nat.succ_mul _ _
  unfold roundHalfEven
  simp only
  split
  · exact ⟨by omega, by omega⟩
  · split
    · rw [next]
      exact ⟨by omega, by omega⟩
    · rcases Nat.mod_two_eq_zero_or_one (num / den) with even | odd
      · rw [even, Nat.add_zero]
        exact ⟨by omega, by omega⟩
      · rw [odd, next]
        exact ⟨by omega, by omega⟩

theorem roundHalfUp_close (num : Nat) {den : Nat} (pos : 0 < den) :
    Close den (2 * (roundHalfUp num den * den)) (2 * num) := by
  have parts : (2 * num + den) / (2 * den) * (2 * den) + (2 * num + den) % (2 * den) =
      2 * num + den := Nat.div_add_mod' _ _
  have rest : (2 * num + den) % (2 * den) < 2 * den := Nat.mod_lt _ (by omega)
  have doubled : 2 * (roundHalfUp num den * den) = (2 * num + den) / (2 * den) * (2 * den) := by
    rw [roundHalfUp]
    ring
  rw [doubled]
  exact ⟨by omega, by omega⟩

/-- A number with more significant bits than are kept is rounded by half of a unit that it has at
least `2 ^ (bits - 1)` times. -/
theorem roundBits_close {bits n : Nat} (kept : 0 < bits) (normal : 2 ^ (bits - 1) ≤ n) :
    ∃ unit, unit * 2 ^ (bits - 1) ≤ n ∧ Close unit (2 * roundBits bits n) (2 * n) := by
  refine ⟨2 ^ (n.log2 + 1 - bits), ?_, roundHalfEven_close n (Nat.two_pow_pos _)⟩
  rcases Nat.lt_or_ge n.log2 bits with few | many
  · have whole : n.log2 + 1 - bits = 0 := by omega
    rw [whole, Nat.pow_zero, Nat.one_mul]
    exact normal
  · have filled : n ≠ 0 := fun zero => by
      rw [zero] at normal
      exact absurd normal (Nat.not_le.mpr (Nat.two_pow_pos _))
    have exponents : n.log2 + 1 - bits + (bits - 1) = n.log2 := by omega
    rw [← Nat.pow_add, exponents]
    exact Nat.log2_self_le filled

namespace Rounded

/-- A quotient is shown with so many places that all of its significant bits are used. -/
theorem normal_placesFor {num den : Nat} (bits : Nat) (pos : 0 < num) (less : num ≤ den) :
    2 ^ (bits - 1) * den ≤ num * 2 ^ placesFor bits num den := by
  have logs : num.log2 ≤ den.log2 :=
    (Nat.le_log2 (by omega)).mpr ((Nat.log2_self_le (by omega)).trans less)
  unfold placesFor
  simp only [Nat.pow_eq]
  split
  · have exponents : bits - 1 + (den.log2 + 1) =
        num.log2 + (bits - 1 + den.log2 - num.log2 + 1) := by omega
    calc 2 ^ (bits - 1) * den ≤ 2 ^ (bits - 1) * 2 ^ (den.log2 + 1) :=
          Nat.mul_le_mul_left _ Nat.lt_log2_self.le
      _ = 2 ^ num.log2 * 2 ^ (bits - 1 + den.log2 - num.log2 + 1) := by
        rw [← Nat.pow_add, ← Nat.pow_add, exponents]
      _ ≤ num * 2 ^ (bits - 1 + den.log2 - num.log2 + 1) :=
        Nat.mul_le_mul_right _ (Nat.log2_self_le (by omega))
  · rename_i long
    exact Nat.le_of_not_lt long

theorem normal_ofQuotient {num den : Nat} (bits : Nat) (pos : 0 < num) (less : num ≤ den) :
    2 ^ (bits - 1) ≤ (ofQuotient bits num den).num := by
  have posDen : 0 < den := Nat.lt_of_lt_of_le pos less
  have normal := normal_placesFor bits pos less
  have near := (roundHalfEven_close (num * 2 ^ placesFor bits num den) posDen).2
  change 2 ^ (bits - 1) ≤ roundHalfEven (num * 2 ^ placesFor bits num den) den
  exact le_of_mul_lt den (by omega)

/-- The errors of a rounded quotient and of a rounded product stay below the unit of both, if there
are bits enough for the numbers in play. -/
theorem errors_lt {share num den mantissa unit scale bound : Nat} (posBound : 0 < bound)
    (posScale : 0 < scale) (part : share ≤ den) (room : 4 * (num * den) ≤ bound)
    (normal : bound * den ≤ num * scale)
    (quotient : Close den (2 * (mantissa * den)) (2 * (num * scale)))
    (product : unit * bound ≤ share * mantissa) : share * den + den * unit < scale := by
  have fromProduct : den * (unit * bound) ≤ den * (share * mantissa) :=
    Nat.mul_le_mul_left _ product
  have fromQuotient : share * (2 * (mantissa * den)) ≤ share * (2 * (num * scale) + den) :=
    Nat.mul_le_mul_left _ quotient.1
  have fromNormal : share * (bound * den) ≤ share * (num * scale) := Nat.mul_le_mul_left _ normal
  have fromPart : share * (4 * (num * scale) + den) ≤ den * (4 * (num * scale) + den) :=
    Nat.mul_le_mul_right _ part
  have fromRoom : 4 * (num * den) * scale ≤ bound * scale := Nat.mul_le_mul_right _ room
  have small : den ≤ num * scale := (Nat.le_mul_of_pos_left den posBound).trans normal
  have square : den * den ≤ den * (num * scale) := Nat.mul_le_mul_left _ small
  have positive : 0 < bound * scale := Nat.mul_pos posBound posScale
  -- Both errors are bounded by the scale through the bits that the mantissa has at least.
  have doubled : 2 * bound * (share * den + den * unit) < 2 * bound * scale := by linarith
  exact Nat.lt_of_mul_lt_mul_left doubled

/-- A share of a quantity, computed with a rounded quotient and a rounded product, is one of the
natural numbers nearest to the exact share, if there are bits enough for the numbers in play. -/
theorem round_scale_nearest {bits num den share : Nat} (kept : 0 < bits) (pos : 0 < num)
    (less : num ≤ den) (filled : 0 < share) (part : share ≤ den)
    (room : 4 * (num * den) ≤ 2 ^ (bits - 1)) :
    Nearest ((ofQuotient bits num den).scale bits share).round (share * num) den := by
  have posDen : 0 < den := Nat.lt_of_lt_of_le pos less
  have normal := normal_placesFor bits pos less
  have posScale : 0 < 2 ^ placesFor bits num den := Nat.two_pow_pos _
  change Nearest (roundHalfUp (roundBits bits (share *
    roundHalfEven (num * 2 ^ placesFor bits num den) den)) (2 ^ placesFor bits num den)) _ _
  have quotient := roundHalfEven_close (num * 2 ^ placesFor bits num den) posDen
  have significant : 2 ^ (bits - 1) ≤ roundHalfEven (num * 2 ^ placesFor bits num den) den :=
    normal_ofQuotient bits pos less
  generalize 2 ^ placesFor bits num den = scale at *
  generalize roundHalfEven (num * scale) den = mantissa at *
  rcases roundBits_close kept (significant.trans (Nat.le_mul_of_pos_left mantissa filled)) with
    ⟨unit, product, rounded⟩
  have whole := roundHalfUp_close (roundBits bits (share * mantissa)) posScale
  generalize roundHalfUp (roundBits bits (share * mantissa)) scale = result at *
  have errors := errors_lt (Nat.two_pow_pos _) posScale part room normal quotient product
  rw [nearest_iff posDen]
  refine Close.of_mul errors ?_
  -- From the number that comes out to the exact share, one rounding after the other.
  have last := quotient.mul share
  have swap : share * (2 * (mantissa * den)) = den * (2 * (share * mantissa)) := by ring
  rw [swap] at last
  have together := ((whole.mul den).trans (rounded.mul den)).trans last
  convert together using 1 <;> ring

end Rounded

end Number
end Shop
