import Shop.Proofs.Store.Keys
import Shop.Proofs.Store.Numbering

/-!
# What statements did

A statement that was answered tells what it did to the tables and which numbers it drew.
-/

namespace Shop
namespace Statement

variable {now : Instant} {t t' : Tables} {drawn drawn' : Sequences}

theorem map_ok {f : α → β} {s : Statement α} {b : β}
    (answered : (s.map f).run now t drawn = (.ok (b, t'), drawn')) :
    ∃ a, s.run now t drawn = (.ok (a, t'), drawn') ∧ f a = b := by
  rcases ran : s.run now t drawn with ⟨fault | ⟨a, after⟩, numbers⟩
  · simp only [map, ran] at answered
    cases answered
  · simp only [map, ran] at answered
    cases answered
    exact ⟨a, rfl, rfl⟩

theorem passing_ok {parameters : List Parameter} {s : Statement α} {a : α}
    (answered : (passing parameters s).run now t drawn = (.ok (a, t'), drawn')) :
    s.run now t drawn = (.ok (a, t'), drawn') := by
  simp only [passing] at answered
  split at answered
  · cases answered
  · exact answered

/-- An insertion that fails has drawn its numbers. -/
theorem insertAll_error {k : Kind} {make : Instant → List (Int → k.Row)} {fault : StoreFault}
    (failed : (insertAll k make).run now t drawn = (.error fault, drawn')) :
    ∃ count, drawn' = drawn.draw count k := by
  simp only [insertAll] at failed
  split at failed
  · cases failed
    exact ⟨_, rfl⟩
  · cases failed

theorem insert_error {k : Kind} {make : Instant → Int → k.Row} {fault : StoreFault}
    (failed : (insert k make).run now t drawn = (.error fault, drawn')) :
    ∃ count, drawn' = drawn.draw count k := by
  simp only [insert] at failed
  split at failed
  · cases failed
    exact ⟨_, rfl⟩
  · cases failed

theorem insertAll_ok {k : Kind} {make : Instant → List (Int → k.Row)} {new : List k.Row}
    (answered : (insertAll k make).run now t drawn = (.ok (new, t'), drawn')) :
    new = numbered (drawn.last k) (make now) ∧ t' = t.put k (t.rows k ++ new) ∧
      drawn' = drawn.draw new.length k := by
  simp only [insertAll] at answered
  split at answered
  · cases answered
  · cases answered
    exact ⟨rfl, rfl, rfl⟩

theorem insert_ok {k : Kind} {make : Instant → Int → k.Row} {row : k.Row}
    (answered : (insert k make).run now t drawn = (.ok (row, t'), drawn')) :
    row = make now ((drawn.last k + 1 : Nat) : Int) ∧ t' = t.put k (t.rows k ++ [row]) ∧
      drawn' = drawn.draw 1 k := by
  simp only [insert, Sequences.last_draw] at answered
  split at answered
  · cases answered
  · cases answered
    exact ⟨rfl, rfl, rfl⟩

theorem update_ok {k : Kind} {chosen : Tables → k.Row → Bool} {change : Instant → k.Row → k.Row}
    {rows : List k.Row}
    (answered : (update k chosen change).run now t drawn = (.ok (rows, t'), drawn')) :
    rows = ((t.rows k).filter (chosen t)).map (change now) ∧
      t' = t.put k ((t.rows k).map fun row => if chosen t row then change now row else row) ∧
      drawn' = drawn := by
  simp only [update] at answered
  split at answered
  · cases answered
  · cases answered
    exact ⟨rfl, rfl, rfl⟩

/-- A change that fails draws no number. -/
theorem update_error {k : Kind} {chosen : Tables → k.Row → Bool} {change : Instant → k.Row → k.Row}
    {fault : StoreFault}
    (failed : (update k chosen change).run now t drawn = (.error fault, drawn')) :
    drawn' = drawn := by
  simp only [update] at failed
  split at failed
  · cases failed
    rfl
  · cases failed

theorem updateLive_ok {k : Kind} {id : Int} {change : Instant → k.Row → k.Row} {found : Option k.Row}
    (answered : (updateLive k id change).run now t drawn = (.ok (found, t'), drawn')) :
    found = (((t.rows k).filter fun row => k.live row && k.number row == id).map (change now)).head? ∧
      t' = t.put k ((t.rows k).map fun row =>
        if k.live row && k.number row == id then change now row else row) ∧
      drawn' = drawn := by
  unfold updateLive at answered
  rcases map_ok answered with ⟨rows, updated, rfl⟩
  rcases update_ok updated with ⟨rfl, rest⟩
  exact ⟨rfl, rest⟩

/-- A change of a live row answers with the row as it is after the change, if there is one. -/
theorem updateLive_answer {k : Kind} {id : Int} {change : Instant → k.Row → k.Row}
    {found : Option k.Row}
    (answered : (updateLive k id change).run now t drawn = (.ok (found, t'), drawn')) :
    found = ((t.live k).find? (k.number · == id)).map (change now) := by
  rw [(updateLive_ok answered).1, List.head?_map, List.head?_filter, Tables.live, List.find?_filter]
  simp only [Bool.decide_and, Bool.decide_eq_true]

theorem archiveAll_ok {k : Kind} {chosen : Tables → k.Row → Bool}
    (answered : (archiveAll k chosen).run now t drawn = (.ok ((), t'), drawn')) :
    t' = t.archiveWhere k (chosen t) now ∧ drawn' = drawn := by
  unfold archiveAll at answered
  rcases map_ok answered with ⟨_, updated, _⟩
  exact (update_ok updated).2

theorem archive_ok {k : Kind} {id : Int} {found : Option k.Row}
    (answered : (archive k id).run now t drawn = (.ok (found, t'), drawn')) :
    t' = t.archiveWhere k (k.number · == id) now ∧ drawn' = drawn := by
  unfold archive at answered
  exact (updateLive_ok answered).2

/-! ## What the store admits -/

/-- Rows that were inserted were compared with all others. -/
theorem insertAll_admitted {k : Kind} {make : Instant → List (Int → k.Row)} {new : List k.Row}
    (answered : (insertAll k make).run now t drawn = (.ok (new, t'), drawn')) :
    t.Admits k (t.rows k ++ new) := by
  simp only [insertAll] at answered
  split at answered
  · cases answered
  · rename_i taken
    cases answered
    exact ⟨_, fun row member => List.mem_append.mp member, taken⟩

theorem insert_admitted {k : Kind} {make : Instant → Int → k.Row} {row : k.Row}
    (answered : (insert k make).run now t drawn = (.ok (row, t'), drawn')) :
    t.Admits k (t.rows k ++ [row]) := by
  simp only [insert] at answered
  split at answered
  · cases answered
  · rename_i taken
    cases answered
    exact ⟨_, fun row member => List.mem_append.mp member, taken⟩

/-- Rows that were changed were compared with all others as they are after the change. -/
theorem update_admitted {k : Kind} {chosen : Tables → k.Row → Bool}
    {change : Instant → k.Row → k.Row} {rows : List k.Row}
    (answered : (update k chosen change).run now t drawn = (.ok (rows, t'), drawn')) :
    t.Admits k ((t.rows k).map fun row => if chosen t row then change now row else row) := by
  simp only [update] at answered
  split at answered
  · cases answered
  · rename_i taken
    cases answered
    refine ⟨_, fun row member => ?_, taken⟩
    rcases List.mem_map.mp member with ⟨old, oldMember, rfl⟩
    split
    · rename_i picked
      exact .inr (List.mem_map_of_mem (List.mem_filter.mpr ⟨oldMember, picked⟩))
    · exact .inl oldMember

end Statement
end Shop
