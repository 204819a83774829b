import Shop.Password.Encoded
import Shop.Proofs.Text.Base64
import Shop.Store.Parameter
import Shop.Text.Lowercase

/-!
# Texts that can be passed to the store

The store takes every text that does not hold the character zero.  Texts that the service makes are
put together from texts of its own and from those it was given, and neither lowercasing nor encoding
makes the character: what is made from texts that can be passed can be passed.
-/

namespace Shop

/-- Whether a text can be passed to the store. -/
abbrev Passable (s : String) : Prop := Parameter.fault? (.text s) = none

theorem passable_iff {s : String} : Passable s ↔ '\x00' ∉ s.toList := by
  unfold Passable
  simp [Parameter.fault?]

theorem passable_append_iff {s t : String} : Passable (s ++ t) ↔ Passable s ∧ Passable t := by
  rw [passable_iff, passable_iff, passable_iff, String.toList_append, List.mem_append, not_or]

theorem passable_intercalate {separator : String} (separated : Passable separator)
    {parts : List String} (passable : ∀ part ∈ parts, Passable part) :
    Passable (String.intercalate separator parts) := by
  induction parts with
  | nil => exact passable_iff.mpr (by simp)
  | cons part parts inductionHypothesis =>
    rcases List.forall_mem_cons.mp passable with ⟨first, rest⟩
    cases parts with
    | nil =>
      rw [String.intercalate_singleton]
      exact first
    | cons other parts =>
      rw [String.intercalate_cons_cons]
      exact passable_append_iff.mpr ⟨passable_append_iff.mpr ⟨first, separated⟩,
        inductionHypothesis rest⟩

namespace Text

/-! ## Lowercasing -/

/-- Every run of the table leads to characters other than zero. -/
theorem lowercaseRuns_lead : ∀ run ∈ lowercaseRuns, 0 < run.first + run.shift ∧
    (run.last + run.shift < 0xD800 ∨
      0xDFFF < run.first + run.shift ∧ run.last + run.shift < 0x110000) := by
  decide +kernel

theorem CaseRun.find?_ne_zero {run : CaseRun} (listed : run ∈ lowercaseRuns) {n m : Nat}
    (found : run.find? n = some m) : Char.ofNat m ≠ '\x00' := by
  rcases lowercaseRuns_lead run listed with ⟨positive, bounded⟩
  unfold CaseRun.find? at found
  split at found
  · rename_i inside
    have moved : ((n : Int) + run.shift).toNat = m := Option.some.inj found
    have valid : m.isValidChar := by
      unfold Nat.isValidChar
      omega
    intro zero
    have number : (Char.ofNat m).toNat = m := by
      unfold Char.ofNat
      rw [dif_pos valid]
      rfl
    rw [zero] at number
    have none : m = 0 := number.symm
    omega
  · cases found

theorem toLower_ne_zero : ∀ n < 128, n ≠ 0 → (Char.ofNat n).toLower ≠ '\x00' := by
  decide

theorem lowerChar_ne_zero {c : Char} (other : c ≠ '\x00') : '\x00' ∉ lowerChar c := by
  have numbered : Char.ofNat c.toNat = c := Char.ofNat_toNat c
  unfold lowerChar
  split
  · rename_i ascii
    have positive : c.toNat ≠ 0 := fun zero => other (by rw [← numbered, zero])
    have lower := toLower_ne_zero c.toNat ascii positive
    rw [numbered] at lower
    simpa using lower.symm
  · split
    · decide
    · split
      · rename_i m found
        rcases List.exists_of_findSome?_eq_some found with ⟨run, listed, foundHere⟩
        simpa using (CaseRun.find?_ne_zero listed foundHere).symm
      · simpa using other.symm

theorem lowerFrom_ne_zero {rest : List Char} (free : '\x00' ∉ rest) (before : List Char)
    {done : List Char} (freeDone : '\x00' ∉ done) : '\x00' ∉ lowerFrom before rest done := by
  induction rest generalizing before done with
  | nil => simpa [lowerFrom] using freeDone
  | cons c rest inductionHypothesis =>
    rcases List.ne_and_not_mem_of_not_mem_cons free with ⟨other, free⟩
    refine inductionHypothesis free _ ?_
    have form : '\x00' ∉ (if c = 'Σ' then
        if casedAhead before && !casedAhead rest then ['ς'] else ['σ'] else lowerChar c) := by
      split
      · split <;> decide
      · exact lowerChar_ne_zero other.symm
    rw [List.mem_append, List.mem_reverse, not_or]
    exact ⟨form, freeDone⟩

/-- A text can be passed in lower case if it can be passed as it is. -/
theorem passable_lowercase {s : String} (passable : Passable s) : Passable (lowercase s) := by
  rw [passable_iff] at *
  unfold lowercase
  rw [String.toList_ofList]
  exact lowerFrom_ne_zero passable [] List.not_mem_nil

end Text

/-! ## Hashes -/

theorem Base64.passable_encodeUnpadded (bytes : ByteArray) : Passable (encodeUnpadded bytes) := by
  rw [passable_iff, encodeUnpadded, String.toList_ofList]
  intro member
  exact forall_encodeBytes (P := (· ≠ '\x00')) (by decide +kernel) _ '\x00' member rfl

/-- The hash of a password can be passed, whatever the password is. -/
theorem Password.passable_hash (salt : ByteArray) (password : String) :
    Passable (Password.hash salt password) := by
  have costs : Passable ("$argon2id$v=" ++ toString EncodedHash.standard.version.number ++ "$m=" ++
      toString EncodedHash.standard.memory ++ ",t=" ++ toString EncodedHash.standard.passes ++
      ",p=" ++ toString EncodedHash.standard.lanes ++ "$") := by
    rw [passable_iff]
    decide +kernel
  have dollar : Passable "$" := by
    rw [passable_iff]
    decide
  unfold Password.hash
  exact passable_append_iff.mpr ⟨passable_append_iff.mpr ⟨passable_append_iff.mpr ⟨costs,
    Base64.passable_encodeUnpadded _⟩, dollar⟩, Base64.passable_encodeUnpadded _⟩

end Shop
