import Shop.Store.Tables

/-!
# Tables that gain rows

Tables are added kind by kind, so that the rows that a longer piece of work leaves behind can be
described as tables of their own.  `Gains` says that tables gained such rows at their end: live rows
under numbers that no other row has.
-/

namespace Shop
namespace Tables

instance : Append Tables where
  append s t :=
    { roots := s.roots ++ t.roots
      images := s.images ++ t.images
      options := s.options ++ t.options
      values := s.values ++ t.values
      products := s.products ++ t.products
      links := s.links ++ t.links
      discounts := s.discounts ++ t.discounts
      webhooks := s.webhooks ++ t.webhooks
      executions := s.executions ++ t.executions
      users := s.users ++ t.users }

@[simp]
theorem rows_append (s t : Tables) (k : Kind) : (s ++ t).rows k = s.rows k ++ t.rows k := by
  cases k <;> rfl

@[simp]
theorem rows_empty (k : Kind) : empty.rows k = [] := by
  cases k <;> rfl

theorem append_assoc (s t u : Tables) : s ++ t ++ u = s ++ (t ++ u) :=
  ext_rows fun k => by simp only [rows_append, List.append_assoc]

@[simp]
theorem append_empty (t : Tables) : t ++ empty = t :=
  ext_rows fun k => by simp only [rows_append, rows_empty, List.append_nil]

def only (k : Kind) (rows : List k.Row) : Tables := empty.put k rows

@[simp]
theorem rows_only (k : Kind) (rows : List k.Row) : (only k rows).rows k = rows :=
  rows_put empty k rows

theorem rows_only_of_ne {j k : Kind} (rows : List k.Row) (different : j ≠ k) :
    (only k rows).rows j = [] := by
  rw [only, rows_put_of_ne empty rows different, rows_empty]

theorem only_nil (k : Kind) : only k [] = empty := by
  cases k <;> rfl

theorem only_append (k : Kind) (rows others : List k.Row) :
    only k rows ++ only k others = only k (rows ++ others) := by
  cases k <;> rfl

theorem append_only (t : Tables) (k : Kind) (rows : List k.Row) :
    t ++ only k rows = t.put k (t.rows k ++ rows) := by
  refine ext_rows fun j => ?_
  by_cases same : j = k
  · subst same
    rw [rows_append, rows_only, rows_put]
  · rw [rows_append, rows_only_of_ne rows same, List.append_nil, rows_put_of_ne t _ same]

/-- A statement about every row of tables with rows of one kind is one about these rows. -/
theorem forall_rows_only {k : Kind} {rows : List k.Row} {P : (j : Kind) → j.Row → Prop} :
    (∀ j, ∀ row ∈ (only k rows).rows j, P j row) ↔ ∀ row ∈ rows, P k row := by
  constructor
  · intro all row member
    exact all k row (by rwa [rows_only])
  · intro all j row member
    by_cases same : j = k
    · subst same
      exact all row (by rwa [rows_only] at member)
    · rw [rows_only_of_ne rows same] at member
      cases member

/-- Tables that gained rows: these stand at the end, are live, and have numbers that no other row
has. -/
structure Gains (t new t' : Tables) : Prop where
  eq_append : t' = t ++ new
  distinct : ∀ k, ((new.rows k).map k.number).Nodup
  unused : ∀ k, ∀ row ∈ new.rows k, ∀ other ∈ t.rows k, k.number row ≠ k.number other
  live : ∀ k, ∀ row ∈ new.rows k, k.live row = true

namespace Gains

variable {t u v m t' : Tables}

theorem none (t : Tables) : t.Gains empty t where
  eq_append := (append_empty t).symm
  distinct k := by simp
  unused k row member := by simp at member
  live k row member := by simp at member

theorem trans (first : t.Gains u m) (second : m.Gains v t') : t.Gains (u ++ v) t' where
  eq_append := by rw [second.eq_append, first.eq_append, append_assoc]
  distinct k := by
    rw [rows_append, List.map_append, List.nodup_append]
    refine ⟨first.distinct k, second.distinct k, ?_⟩
    intro number inFirst other inSecond
    rcases List.mem_map.mp inFirst with ⟨row, rowMember, rfl⟩
    rcases List.mem_map.mp inSecond with ⟨later, laterMember, rfl⟩
    refine (second.unused k later laterMember row ?_).symm
    rw [first.eq_append, rows_append]
    exact List.mem_append_right _ rowMember
  unused k row member other old := by
    rw [rows_append] at member
    rcases List.mem_append.mp member with inFirst | inSecond
    · exact first.unused k row inFirst other old
    · refine second.unused k row inSecond other ?_
      rw [first.eq_append, rows_append]
      exact List.mem_append_left _ old
  live k row member := by
    rw [rows_append] at member
    rcases List.mem_append.mp member with inFirst | inSecond
    · exact first.live k row inFirst
    · exact second.live k row inSecond

/-- Rows of one kind are gained if they are live and have numbers of their own. -/
theorem of_only {k : Kind} {rows : List k.Row} (distinct : (rows.map k.number).Nodup)
    (unused : ∀ row ∈ rows, ∀ other ∈ t.rows k, k.number row ≠ k.number other)
    (live : ∀ row ∈ rows, k.live row = true) :
    t.Gains (only k rows) (t.put k (t.rows k ++ rows)) where
  eq_append := (append_only t k rows).symm
  distinct j := by
    by_cases same : j = k
    · subst same
      rwa [rows_only]
    · rw [rows_only_of_ne rows same]
      exact List.nodup_nil
  unused := forall_rows_only.mpr unused
  live := forall_rows_only.mpr live

/-- Rows that were gained may be changed afterwards.  A change that concerns no old row is as good
as having gained the changed rows. -/
theorem amend (gains : t.Gains new t') (k : Kind) (change : k.Row → k.Row)
    (number : ∀ row, k.number (change row) = k.number row)
    (live : ∀ row, k.live (change row) = k.live row)
    (spared : ∀ row ∈ t.rows k, change row = row) :
    t.Gains (new.put k ((new.rows k).map change)) (t'.put k ((t'.rows k).map change)) where
  eq_append := by
    refine ext_rows fun j => ?_
    rw [rows_append]
    by_cases same : j = k
    · subst same
      rw [rows_put, rows_put, gains.eq_append, rows_append, List.map_append,
        List.map_congr_left spared, List.map_id']
    · rw [rows_put_of_ne _ _ same, rows_put_of_ne _ _ same, gains.eq_append, rows_append]
  distinct j := by
    by_cases same : j = k
    · subst same
      rw [rows_put, List.map_map]
      have kept : j.number ∘ change = j.number := funext number
      rw [kept]
      exact gains.distinct j
    · rw [rows_put_of_ne _ _ same]
      exact gains.distinct j
  unused j row member other old := by
    by_cases same : j = k
    · subst same
      rw [rows_put] at member
      rcases List.mem_map.mp member with ⟨before, beforeMember, rfl⟩
      rw [number]
      exact gains.unused j before beforeMember other old
    · rw [rows_put_of_ne _ _ same] at member
      exact gains.unused j row member other old
  live j row member := by
    by_cases same : j = k
    · subst same
      rw [rows_put] at member
      rcases List.mem_map.mp member with ⟨before, beforeMember, rfl⟩
      rw [live]
      exact gains.live j before beforeMember
    · rw [rows_put_of_ne _ _ same] at member
      exact gains.live j row member

/-- The row of one number that was gained may be changed by its number. -/
theorem amendOne (gains : t.Gains new t') {k : Kind} {row : k.Row} (member : row ∈ new.rows k)
    (change : k.Row → k.Row) (number : ∀ row, k.number (change row) = k.number row)
    (live : ∀ row, k.live (change row) = k.live row) :
    let changed := fun r => if k.number r == k.number row then change r else r
    t.Gains (new.put k ((new.rows k).map changed)) (t'.put k ((t'.rows k).map changed)) := by
  refine gains.amend k _ ?_ ?_ ?_
  · intro other
    split
    · exact number other
    · rfl
  · intro other
    split
    · exact live other
    · rfl
  · intro other old
    rw [if_neg]
    exact fun same => gains.unused k row member other old (beq_iff_eq.mp same).symm

end Gains
end Tables
end Shop
