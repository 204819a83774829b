import Mathlib.Algebra.Order.Floor.Div
import Shop.Page

/-!
# The pages of a list

Whatever numbers a client asks for, the page that it gets is one of finitely many sizes and counts the
rows before it within 64 bits.  Where that count is cut off it lies behind every list that has fewer
rows, so the cut is never seen: the pages of one size lie one behind the other, and together they are
the list.
-/

namespace Shop
namespace Page

/-! ## The numbers of a page -/

/-- The size of the pages that a client gets who asks for a size. -/
def size (limit : Option Int) : Nat := (of none limit).limit.toNat

variable (number limit : Option Int)

theorem one_le_number : 1 ≤ (of number limit).number :=
  Int.le_max_right _ _

theorem limit_bounds : 1 ≤ (of number limit).limit ∧ (of number limit).limit ≤ maxLimit := by
  have most : (1 : Int) ≤ maxLimit := by decide
  change 1 ≤ min (Max.max (limit.getD defaultLimit) 1) maxLimit ∧
    min (Max.max (limit.getD defaultLimit) 1) maxLimit ≤ maxLimit
  omega

/-- The size of a page does not depend on its number. -/
theorem limit_of : (of number limit).limit = size limit := by
  have bounds := limit_bounds none limit
  have sized : ((size limit : Nat) : Int) = (of none limit).limit := Int.toNat_of_nonneg (by omega)
  rw [sized]
  rfl

theorem size_pos : 0 < size limit := by
  have bounds := limit_bounds none limit
  have sized := limit_of none limit
  omega

/-- The rows before a page are counted within 64 bits. -/
theorem offset_bounds : 0 ≤ (of number limit).offset ∧ (of number limit).offset ≤ maxOffset := by
  have first := one_le_number number limit
  have bounds := limit_bounds number limit
  have before : 0 ≤ ((of number limit).number - 1) * (of number limit).limit :=
    Int.mul_nonneg (by omega) (by omega)
  have most : 0 ≤ maxOffset := by decide
  unfold offset
  omega

/-! ## Pages one behind the other -/

variable {α : Type} {rows : List α}

theorem slice_sublist (p : Page) (rows : List α) : (p.slice rows).Sublist rows :=
  (List.take_sublist _ _).trans (List.drop_sublist _ _)

/-- Pieces of one size, one behind the other, are the start of the list. -/
theorem flatMap_pieces (size count : Nat) (rows : List α) :
    ((List.range count).flatMap fun n => (rows.drop (n * size)).take size) =
      rows.take (count * size) := by
  induction count with
  | zero => simp
  | succ count inductionHypothesis =>
    rw [List.range_succ, List.flatMap_append, inductionHypothesis, List.flatMap_singleton,
      Nat.succ_mul, List.take_add]

variable {limit}

/-- A page begins behind the rows of the pages before it.  Where their count is cut off, no rows are
left either way. -/
theorem slice_of (fits : (rows.length : Int) ≤ maxOffset) (n : Nat) :
    (of (some (n + 1)) limit).slice rows = (rows.drop (n * size limit)).take (size limit) := by
  have number : (of (some ((n : Int) + 1)) limit).number = n + 1 := by
    change Max.max ((n : Int) + 1) 1 = n + 1
    omega
  have product : (((n * size limit : Nat) : Int)) = (n : Int) * size limit := Int.natCast_mul _ _
  have offset : (of (some ((n : Int) + 1)) limit).offset =
      min ((n * size limit : Nat) : Int) maxOffset := by
    rw [Page.offset, number, limit_of, product, Int.add_sub_cancel]
  have drops : rows.drop (of (some ((n : Int) + 1)) limit).offset.toNat =
      rows.drop (n * size limit) := by
    rw [offset]
    rcases Int.le_total ((n * size limit : Nat) : Int) maxOffset with within | beyond
    · rw [Int.min_eq_left within, Int.toNat_natCast]
    · rw [Int.min_eq_right beyond, List.drop_eq_nil_of_le (by omega),
        List.drop_eq_nil_of_le (by omega)]
  rw [slice, drops, limit_of, Int.toNat_natCast]

/-- The pages up to the last one are the list. -/
theorem flatMap_slice (fits : (rows.length : Int) ≤ maxOffset) (limit : Option Int) :
    ((List.range (rows.length ⌈/⌉ size limit)).flatMap fun n : Nat =>
      (of (some (n + 1)) limit).slice rows) = rows := by
  have covered : rows.length ≤ (rows.length ⌈/⌉ size limit) * size limit := by
    rw [Nat.mul_comm]
    exact le_smul_ceilDiv (size_pos limit)
  simp only [slice_of fits]
  rw [flatMap_pieces, List.take_of_length_le covered]

/-- Behind the last page there is nothing, however far one goes. -/
theorem slice_eq_nil (fits : (rows.length : Int) ≤ maxOffset) {number : Int}
    (beyond : ((rows.length ⌈/⌉ size limit : Nat) : Int) < number) :
    (of (some number) limit).slice rows = [] := by
  obtain ⟨n, rfl⟩ : ∃ n : Nat, number = n + 1 := ⟨(number - 1).toNat, by omega⟩
  have passed : rows.length ⌈/⌉ size limit ≤ n := by omega
  have behind : rows.length ≤ n * size limit := by
    rw [Nat.mul_comm]
    exact (ceilDiv_le_iff_le_smul (size_pos limit)).mp passed
  rw [slice_of fits, List.drop_eq_nil_of_le behind, List.take_nil]

end Page
end Shop
