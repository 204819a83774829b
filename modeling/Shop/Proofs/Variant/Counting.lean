import Mathlib.Algebra.BigOperators.Ring.List
import Mathlib.Algebra.Ring.Nat
import Mathlib.Data.List.TakeWhile
import Shop.Variant.Limit

/-!
# Counting choices

The number of choices from an option set is multiplied up from the left in 64 bits.  An option
without values makes it zero, but the sizes before that option may have left the bits already.  So
what is counted is the product of all sizes, as long as the sizes before the first empty option
multiply to a number that can be counted; where no option is empty, these are all sizes.
-/

namespace Shop
namespace Variant

/-- The sizes before the first option without values. -/
def leading (sizes : List Nat) : List Nat := sizes.takeWhile (· ≠ 0)

theorem leading_cons_zero (sizes : List Nat) : leading (0 :: sizes) = [] := rfl

theorem leading_cons_of_ne {size : Nat} (filled : size ≠ 0) (sizes : List Nat) :
    leading (size :: sizes) = size :: leading sizes :=
  List.takeWhile_cons_of_pos (decide_eq_true filled)

theorem leading_of_filled {sizes : List Nat} (filled : 0 ∉ sizes) : leading sizes = sizes :=
  List.takeWhile_eq_self_iff.mpr fun _ member => decide_eq_true fun zero => filled (zero ▸ member)

theorem prod_leading_pos (sizes : List Nat) : 0 < (leading sizes).prod := by
  refine Nat.pos_of_ne_zero (List.prod_ne_zero fun empty => ?_)
  have kept := List.mem_takeWhile_imp empty
  exact of_decide_eq_true kept rfl

/-- Multiplying on from a number that can be counted gives the whole product, unless the sizes before
the first empty option lead out of the bits. -/
theorem foldlM_checkedMul {product : Nat} (counted : product < countBound) (sizes : List Nat) :
    sizes.foldlM checkedMul product =
      if product * (leading sizes).prod < countBound then some (product * sizes.prod) else none := by
  induction sizes generalizing product with
  | nil =>
    change some product = if product * 1 < countBound then some (product * 1) else none
    rw [Nat.mul_one, if_pos counted]
  | cons size sizes inductionHypothesis =>
    rw [List.foldlM_cons, checkedMul]
    by_cases empty : size = 0
    · -- From here on the product is zero, and stays in the bits.
      have started : 0 < countBound := Nat.two_pow_pos 64
      rw [empty, leading_cons_zero, List.prod_nil, List.prod_cons, Nat.mul_one, if_pos counted,
        Nat.zero_mul, Nat.mul_zero, if_pos started]
      change sizes.foldlM checkedMul 0 = _
      rw [inductionHypothesis started, Nat.zero_mul, Nat.zero_mul, if_pos started]
    · rw [leading_cons_of_ne empty, List.prod_cons, List.prod_cons, ← Nat.mul_assoc, ← Nat.mul_assoc]
      by_cases within : product * size < countBound
      · rw [if_pos within]
        exact inductionHypothesis within
      · have beyond : countBound ≤ product * size * (leading sizes).prod :=
          (Nat.le_of_not_lt within).trans (Nat.le_mul_of_pos_right _ (prod_leading_pos sizes))
        rw [if_neg within, if_neg (Nat.not_lt.mpr beyond)]
        rfl

/-- What is counted is the product of the sizes, if those before the first empty option can be. -/
theorem count_eq (sizes : List Nat) :
    count sizes = if (leading sizes).prod < countBound then some sizes.prod else none := by
  have started : 1 < countBound := Nat.one_lt_two_pow (by decide)
  rw [count, foldlM_checkedMul started, Nat.one_mul, Nat.one_mul]

/-- Options that all have values are counted by their product alone. -/
theorem count_of_filled {sizes : List Nat} (filled : 0 ∉ sizes) :
    count sizes = if sizes.prod < countBound then some sizes.prod else none := by
  rw [count_eq, leading_of_filled filled]

/-- An option set is let through if it has no more choices than a root may have products, and the
sizes before its first empty option can be multiplied. -/
theorem ensureLimit_eq_ok_iff {sizes : List Nat} {n : Nat} :
    ensureLimit sizes = .ok n ↔
      sizes.prod = n ∧ n ≤ maxVariants ∧ (leading sizes).prod < countBound := by
  unfold ensureLimit
  rw [count_eq]
  by_cases counted : (leading sizes).prod < countBound
  · rw [if_pos counted]
    by_cases within : sizes.prod ≤ maxVariants
    · simp only [within, if_true, Except.ok.injEq, counted, and_true]
      exact ⟨fun same => ⟨same, same ▸ within⟩, fun ⟨same, _⟩ => same⟩
    · simp only [within, if_false, reduceCtorEq, counted, and_true, false_iff, not_and]
      exact fun same => same ▸ within
  · simp only [counted, if_false, reduceCtorEq, and_false]

/-- Where all options have values, their product decides. -/
theorem ensureLimit_eq_ok_iff_of_filled {sizes : List Nat} (filled : 0 ∉ sizes) {n : Nat} :
    ensureLimit sizes = .ok n ↔ sizes.prod = n ∧ n ≤ maxVariants := by
  rw [ensureLimit_eq_ok_iff, leading_of_filled filled]
  have fits : maxVariants < countBound := by decide
  refine ⟨fun ⟨same, within, _⟩ => ⟨same, within⟩, fun ⟨same, within⟩ => ⟨same, within, ?_⟩⟩
  exact same ▸ Nat.lt_of_le_of_lt within fits

/-- Where all options have values, their order does not matter. -/
theorem ensureLimit_perm {sizes others : List Nat} (perm : others.Perm sizes) (filled : 0 ∉ sizes) :
    ensureLimit others = ensureLimit sizes := by
  have same : count others = count sizes := by
    rw [count_of_filled filled, count_of_filled (mt perm.mem_iff.mp filled), perm.prod_eq]
  unfold ensureLimit
  rw [same]

end Variant
end Shop
