import Mathlib.Data.List.Nodup
import Shop.Proofs.Store.Growth
import Shop.Store.Statement

/-!
# Numbers of rows

Rows stand in the order of their numbers, and no number is above the last one drawn.  So a number
belongs to one row only, and the numbers that are drawn next belong to none.
-/

namespace Shop

/-- The numbers that are drawn next. -/
def numbersAfter (last count : Nat) : List Int := (List.range' (last + 1) count).map Nat.cast

theorem mem_numbersAfter {last count : Nat} {n : Int} :
    n ∈ numbersAfter last count ↔ (last : Int) < n ∧ n ≤ ((last + count : Nat) : Int) := by
  simp only [numbersAfter, List.mem_map, List.mem_range'_1]
  constructor
  · rintro ⟨m, bounds, rfl⟩
    omega
  · intro bounds
    exact ⟨n.toNat, by omega, by omega⟩

theorem numbersAfter_pairwise (last count : Nat) : (numbersAfter last count).Pairwise (· < ·) := by
  rw [numbersAfter, List.pairwise_map]
  exact (List.pairwise_lt_range' 1).imp Int.ofNat_lt.mpr

/-- New rows get the numbers that are drawn next. -/
theorem Statement.map_numbered {R : Type} {number : R → Int} {makes : List (Int → R)}
    (own : ∀ make ∈ makes, ∀ id, number (make id) = id) (last : Nat) :
    (numbered last makes).map number = numbersAfter last makes.length := by
  induction makes generalizing last with
  | nil => rfl
  | cons make makes inductionHypothesis =>
    rcases List.forall_mem_cons.mp own with ⟨first, rest⟩
    rw [numbered, List.map_cons, first, inductionHypothesis rest]
    rfl

/-- What new rows are made from can be read off them again, whatever their numbers. -/
theorem Statement.map_numbered_map {R : Type} {make : α → Int → R} {source : R → α}
    (read : ∀ a id, source (make a id) = a) (last : Nat) (sources : List α) :
    (numbered last (sources.map make)).map source = sources := by
  induction sources generalizing last with
  | nil => rfl
  | cons a sources inductionHypothesis =>
    rw [List.map_cons, numbered, List.map_cons, read, inductionHypothesis]

theorem Statement.mem_numbered {R : Type} {last : Nat} {makes : List (Int → R)} {row : R}
    (member : row ∈ numbered last makes) : ∃ make ∈ makes, ∃ id, row = make id := by
  induction makes generalizing last with
  | nil => cases member
  | cons make makes inductionHypothesis =>
    rcases List.mem_cons.mp member with rfl | member
    · exact ⟨make, List.mem_cons_self, _, rfl⟩
    · rcases inductionHypothesis member with ⟨other, otherMember, id, made⟩
      exact ⟨other, List.mem_cons_of_mem _ otherMember, id, made⟩

theorem Statement.length_numbered {R : Type} (last : Nat) (makes : List (Int → R)) :
    (numbered last makes).length = makes.length := by
  induction makes generalizing last with
  | nil => rfl
  | cons make makes inductionHypothesis =>
    rw [numbered, List.length_cons, inductionHypothesis, List.length_cons]

namespace Tables

/-- Tables whose rows stand in the order of their numbers, none above the last one drawn. -/
structure Numbered (t : Tables) (drawn : Sequences) : Prop where
  rising : ∀ k, ((t.rows k).map k.number).Pairwise (· < ·)
  bounded : ∀ k, ∀ row ∈ t.rows k, k.number row ≤ drawn.last k

namespace Numbered

variable {t : Tables} {drawn : Sequences}

theorem start : Numbered .empty .start where
  rising k := by
    rw [rows_empty]
    exact .nil
  bounded k row member := by
    rw [rows_empty] at member
    cases member

theorem draw (numbered : t.Numbered drawn) (count : Nat) (k : Kind) :
    t.Numbered (drawn.draw count k) where
  rising := numbered.rising
  bounded j row member := by
    have bounded := numbered.bounded j row member
    by_cases same : j = k
    · subst same
      rw [Sequences.last_draw]
      omega
    · rwa [Sequences.last_draw_of_ne drawn count same]

/-- Rows may be added under the numbers drawn for them. -/
theorem insert (numbered : t.Numbered drawn) {k : Kind} {new : List k.Row}
    (numbers : new.map k.number = numbersAfter (drawn.last k) new.length) :
    (t.put k (t.rows k ++ new)).Numbered (drawn.draw new.length k) where
  rising j := by
    by_cases same : j = k
    · subst same
      rw [rows_put, List.map_append, numbers, List.pairwise_append]
      refine ⟨numbered.rising j, numbersAfter_pairwise _ _, ?_⟩
      intro old oldMember next nextMember
      rcases List.mem_map.mp oldMember with ⟨row, member, rfl⟩
      exact Int.lt_of_le_of_lt (numbered.bounded j row member) (mem_numbersAfter.mp nextMember).1
    · rw [rows_put_of_ne t _ same]
      exact numbered.rising j
  bounded j row member := by
    by_cases same : j = k
    · subst same
      rw [rows_put] at member
      rw [Sequences.last_draw]
      rcases List.mem_append.mp member with old | added
      · have bounded := numbered.bounded j row old
        omega
      · have number := List.mem_map_of_mem (f := j.number) added
        rw [numbers] at number
        exact (mem_numbersAfter.mp number).2
    · rw [rows_put_of_ne t _ same] at member
      rw [Sequences.last_draw_of_ne drawn _ same]
      exact numbered.bounded j row member

theorem change (numbered : t.Numbered drawn) (k : Kind) (change : k.Row → k.Row)
    (number : ∀ row, k.number (change row) = k.number row) :
    (t.put k ((t.rows k).map change)).Numbered drawn where
  rising j := by
    by_cases same : j = k
    · subst same
      have kept : j.number ∘ change = j.number := funext number
      rw [rows_put, List.map_map, kept]
      exact numbered.rising j
    · rw [rows_put_of_ne t _ same]
      exact numbered.rising j
  bounded j row member := by
    by_cases same : j = k
    · subst same
      rw [rows_put] at member
      rcases List.mem_map.mp member with ⟨old, oldMember, rfl⟩
      rw [number]
      exact numbered.bounded j old oldMember
    · rw [rows_put_of_ne t _ same] at member
      exact numbered.bounded j row member

/-- A number belongs to one row only. -/
theorem eq_of_number (numbered : t.Numbered drawn) {k : Kind} {row other : k.Row}
    (member : row ∈ t.rows k) (otherMember : other ∈ t.rows k)
    (same : k.number row = k.number other) : row = other :=
  List.inj_on_of_nodup_map ((numbered.rising k).imp Int.ne_of_lt) member otherMember same

/-- Live rows that were added under numbers drawn for them are gained. -/
theorem gains (numbered : t.Numbered drawn) {k : Kind} {new : List k.Row}
    (numbers : new.map k.number = numbersAfter (drawn.last k) new.length)
    (live : ∀ row ∈ new, k.live row = true) :
    t.Gains (only k new) (t.put k (t.rows k ++ new)) := by
  refine .of_only ?_ ?_ live
  · rw [numbers]
    exact (numbersAfter_pairwise _ _).imp Int.ne_of_lt
  · intro row member other old same
    have number := List.mem_map_of_mem (f := k.number) member
    rw [numbers, same] at number
    exact Int.not_lt.mpr (numbered.bounded k other old) (mem_numbersAfter.mp number).1

/-- Live rows at the end of tables in the order of their numbers are gained. -/
theorem gains_append {new : Tables} (numbered : (t ++ new).Numbered drawn)
    (live : ∀ k, ∀ row ∈ new.rows k, k.live row = true) : t.Gains new (t ++ new) := by
  have apart (k : Kind) := by
    have rising := numbered.rising k
    rw [rows_append, List.map_append, List.pairwise_append] at rising
    exact rising
  refine ⟨rfl, fun k => (apart k).2.1.imp Int.ne_of_lt, fun k row member other old same => ?_, live⟩
  have less := (apart k).2.2 _ (List.mem_map_of_mem old) _ (List.mem_map_of_mem member)
  exact Int.ne_of_lt less same.symm

end Numbered
end Tables
end Shop
