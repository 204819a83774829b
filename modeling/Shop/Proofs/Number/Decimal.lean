import Shop.Number.Integer

/-!
# Reading decimal integers back

The decimal text of an integer is read as this integer, by every range that it lies in.  On the way
the reader only meets numbers between zero and the one that it ends with, so it leaves the range
nowhere.
-/

namespace Shop
namespace Number

theorem digit?_of_isDigit {c : Char} (digit : c.isDigit = true) :
    digit? c = some (c.toNat - '0'.toNat) := by
  have bounds := Char.isDigit_iff_toNat.mp digit
  exact if_pos bounds

/-- More digits do not make a number less. -/
theorem le_ofDigitChars (cs : List Char) (n : Nat) : n ≤ Nat.ofDigitChars 10 cs n := by
  induction cs generalizing n with
  | nil => exact Nat.le_refl n
  | cons c cs inductionHypothesis =>
    rw [Nat.ofDigitChars_cons]
    have next := inductionHypothesis (10 * n + (c.toNat - '0'.toNat))
    omega

/-- A natural number, or its opposite. -/
def signed (negative : Bool) (n : Nat) : Int := if negative then -n else n

theorem signed_next (negative : Bool) (n d : Nat) :
    (if negative then 10 * signed negative n - d else 10 * signed negative n + d) =
      signed negative (10 * n + d) := by
  cases negative with
  | false => simp [signed]
  | true =>
    simp only [signed, if_true]
    omega

variable {r : IntegerRange}

/-- Digits are read as the number that they end with, if it lies within the range. -/
theorem readDigits_digits (low : r.low ≤ 0) (high : 0 ≤ r.high) (negative : Bool) {cs : List Char}
    (digits : ∀ c ∈ cs, c.isDigit = true) {n : Nat}
    (within : r.low ≤ signed negative (Nat.ofDigitChars 10 cs n) ∧
      signed negative (Nat.ofDigitChars 10 cs n) ≤ r.high) :
    r.readDigits negative (signed negative n) cs =
      .ok (signed negative (Nat.ofDigitChars 10 cs n)) := by
  induction cs generalizing n with
  | nil => rfl
  | cons c cs inductionHypothesis =>
    rcases List.forall_mem_cons.mp digits with ⟨digit, digits⟩
    rw [Nat.ofDigitChars_cons] at within ⊢
    have further := le_ofDigitChars cs (10 * n + (c.toNat - '0'.toNat))
    have between : r.low ≤ signed negative (10 * n + (c.toNat - '0'.toNat)) ∧
        signed negative (10 * n + (c.toNat - '0'.toNat)) ≤ r.high := by
      cases negative with
      | false =>
        simp only [signed, Bool.false_eq_true, if_false] at within ⊢
        omega
      | true =>
        simp only [signed, if_true] at within ⊢
        omega
    rw [IntegerRange.readDigits, digit?_of_isDigit digit]
    simp only [signed_next]
    rw [if_neg (Int.not_lt.mpr between.2), if_neg (Int.not_lt.mpr between.1)]
    exact inductionHypothesis digits within

/-- The digits of a number: there are some, and they are read as it. -/
theorem readDigits_toDigits (low : r.low ≤ 0) (high : 0 ≤ r.high) (negative : Bool) {n : Nat}
    (within : r.low ≤ signed negative n ∧ signed negative n ≤ r.high) :
    r.readDigits negative 0 (Nat.toDigits 10 n) = .ok (signed negative n) := by
  have spelled : Nat.ofDigitChars 10 (Nat.toDigits 10 n) 0 = n :=
    Nat.ofDigitChars_toDigits (by decide) (by decide)
  have zero : signed negative 0 = 0 := by cases negative <;> rfl
  have read := readDigits_digits (n := 0) low high negative
    (fun c member => Nat.isDigit_of_mem_toDigits (by decide) (by decide) member)
    (spelled.symm ▸ within)
  rwa [zero, spelled] at read

theorem read_unsigned {s : String} {c : Char} {cs : List Char} (chars : s.toList = c :: cs)
    (digit : c.isDigit = true) : r.read s = r.readDigits false 0 (c :: cs) := by
  have plus : c ≠ '+' := by
    rintro rfl
    exact absurd digit (by decide)
  have minus : c ≠ '-' := by
    rintro rfl
    exact absurd digit (by decide)
  unfold IntegerRange.read
  rw [chars]
  split <;> simp_all

theorem read_minus {s : String} {c : Char} {cs : List Char} (chars : s.toList = '-' :: c :: cs)
    (below : r.low < 0) : r.read s = r.readDigits true 0 (c :: cs) := by
  unfold IntegerRange.read
  rw [chars]
  exact if_pos below

/-- The decimal text of an integer of a range is read as this integer. -/
theorem read_toString (low : r.low ≤ 0) (high : 0 ≤ r.high) {n : Int}
    (within : r.low ≤ n ∧ n ≤ r.high) : r.read (toString n) = .ok n := by
  have some {m : Nat} := List.exists_cons_of_ne_nil (Nat.toDigits_ne_nil (b := 10) (n := m))
  cases n with
  | ofNat m =>
    rcases some (m := m) with ⟨c, cs, spelled⟩
    have chars : (toString (Int.ofNat m)).toList = c :: cs := Nat.toList_repr.trans spelled
    have digit : c.isDigit = true := Nat.isDigit_of_mem_toDigits (b := 10) (n := m) (by decide)
      (by decide) (spelled ▸ List.mem_cons_self)
    rw [read_unsigned chars digit, ← spelled]
    exact readDigits_toDigits low high false within
  | negSucc m =>
    rcases some (m := m + 1) with ⟨c, cs, spelled⟩
    have chars : (toString (Int.negSucc m)).toList = '-' :: c :: cs := by
      have repr : toString (Int.negSucc m) = "-" ++ (m + 1).repr := rfl
      rw [repr, String.toList_append, Nat.toList_repr, spelled]
      rfl
    rw [read_minus chars (Int.lt_of_le_of_lt within.1 (Int.negSucc_lt_zero m)), ← spelled]
    exact readDigits_toDigits (n := m + 1) low high true within

/-- The signs of a decimal text. -/
theorem decimal_chars (n : Int) : ∀ c ∈ (toString n).toList, c.isDigit = true ∨ c = '-' := by
  have digits {m : Nat} : ∀ c ∈ Nat.toDigits 10 m, c.isDigit = true := fun c member =>
    Nat.isDigit_of_mem_toDigits (by decide) (by decide) member
  intro c member
  cases n with
  | ofNat m =>
    have chars : (toString (Int.ofNat m)).toList = Nat.toDigits 10 m := Nat.toList_repr
    exact .inl (digits c (chars ▸ member))
  | negSucc m =>
    have repr : toString (Int.negSucc m) = "-" ++ (m + 1).repr := rfl
    rw [repr, String.toList_append, Nat.toList_repr] at member
    rcases List.mem_cons.mp member with rfl | inside
    · exact .inr rfl
    · exact .inl (digits c inside)

end Number
end Shop
