import Mathlib.Data.String.Basic

/-!
# Splitting at a character

Paths are split where a slash stands, and the fields of a hash where a dollar sign does.  The library
splits at separators of any length and walks the bytes of both texts; at a separator of one character
this is the same as splitting the list of characters.
-/

namespace Shop
namespace Text

/-- At a separator of one character, the position in the separator is always its start. -/
theorem splitOnAux_singleton (c : Char) (s : String) (b i : String.Pos.Raw) (parts : List String) :
    String.splitOnAux s (String.singleton c) b i 0 parts =
      String.splitAux s (· == c) b i parts := by
  have first : String.Pos.Raw.get (String.singleton c) 0 = c := by
    rw [String.Pos.Raw.get, String.toList_singleton]
    rfl
  have next : String.Pos.Raw.next (String.singleton c) 0 = (0 : String.Pos.Raw) + c := by
    rw [String.Pos.Raw.next, first]
  have ends : String.Pos.Raw.atEnd (String.singleton c) ((0 : String.Pos.Raw) + c) = true := by
    simp [String.Pos.Raw.atEnd]
  fun_induction String.splitAux s (· == c) b i parts with
  | case1 b i parts atEnd rest => rw [String.splitOnAux, if_pos atEnd]
  | case2 b i parts going _ found after inductionHypothesis =>
    have back : after.unoffsetBy ((0 : String.Pos.Raw) + c) = i := by
      simp only [after, String.Pos.Raw.next, beq_iff_eq.mp found]
      ext
      simp
    rw [String.splitOnAux, if_neg going, first, if_pos found]
    simp only [next, ends, if_true]
    rw [← inductionHypothesis, back]
  | case3 b i parts going _ other inductionHypothesis =>
    have back : i.unoffsetBy 0 = i := rfl
    rw [String.splitOnAux, if_neg going, first, if_neg other, back, inductionHypothesis]

/-- Splitting a text at a character splits the list of its characters. -/
theorem splitOn_singleton (c : Char) (s : String) :
    s.splitOn (String.singleton c) = (s.toList.splitOnP (· == c)).map String.ofList := by
  rw [← String.splitToList_of_valid, String.splitOn, if_neg (by simp)]
  exact splitOnAux_singleton c s 0 0 []

/-- Parts that do not hold a character are read back from the text that they make with it between
them. -/
theorem splitOn_intercalate (c : Char) {parts : List String} (some : parts ≠ [])
    (free : ∀ part ∈ parts, c ∉ part.toList) :
    (String.intercalate (String.singleton c) parts).splitOn (String.singleton c) = parts := by
  have read : ((String.intercalate (String.singleton c) parts).toList.splitOn c) =
      parts.map String.toList := by
    rw [String.toList_intercalate, String.toList_singleton]
    exact List.splitOn_intercalate c (List.forall_mem_map.mpr free) (by simpa using some)
  have whole : String.ofList ∘ String.toList = id := funext fun part => String.ofList_toList
  rw [splitOn_singleton, ← List.splitOn, read, List.map_map, whole, List.map_id]

/-- What holds of a character and of those of some parts holds of the text that the parts make with it
between them. -/
theorem forall_mem_intercalate {holds : Char → Prop} {c : Char} (between : holds c)
    {parts : List String} (inside : ∀ part ∈ parts, ∀ d ∈ part.toList, holds d) :
    ∀ d ∈ (String.intercalate (String.singleton c) parts).toList, holds d := by
  induction parts with
  | nil => exact List.forall_mem_nil _
  | cons part parts inductionHypothesis =>
    rcases List.forall_mem_cons.mp inside with ⟨first, later⟩
    cases parts with
    | nil =>
      rw [String.intercalate_singleton]
      exact first
    | cons other parts =>
      rw [String.intercalate_cons_cons, String.toList_append, String.toList_append,
        String.toList_singleton]
      exact List.forall_mem_append.mpr ⟨List.forall_mem_append.mpr
        ⟨first, List.forall_mem_singleton.mpr between⟩, inductionHypothesis later⟩

theorem splitOn_slash (s : String) :
    s.splitOn "/" = (s.toList.splitOnP (· == '/')).map String.ofList :=
  splitOn_singleton '/' s

end Text
end Shop
