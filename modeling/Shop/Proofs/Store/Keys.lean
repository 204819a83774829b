import Shop.Proofs.Store.Ownership
import Shop.Store.Condition

/-!
# Keys of live rows

The store admits new rows and changed ones only after it has compared them with all rows of their
kind, so a live row never gets the key of another live row.  Rows that stay as they were are not
compared again; that their keys differ was seen when the later of them came in.
-/

namespace Shop
namespace Kind

theorem sameKey_comm (k : Kind) (row other : k.Row) : k.sameKey row other = k.sameKey other row := by
  cases k with
  | root | option | value | product | user => simp only [sameKey, BEq.comm]
  | _ => rfl

theorem clash_comm (k : Kind) (row other : k.Row) : k.clash row other = k.clash other row := by
  unfold clash
  rw [sameKey_comm, bne_comm, Bool.and_assoc (k.number other != k.number row),
    Bool.and_comm (k.live row), ← Bool.and_assoc]

/-- A row that is not live holds its key against nobody. -/
theorem clash_of_not_live {k : Kind} {row : k.Row} (gone : k.live row = false) (other : k.Row) :
    k.clash row other = false := by
  simp only [clash, gone, Bool.and_false, Bool.false_and]

end Kind

namespace Tables

/-- The store takes rows that keep the conditions of their table, clash with none of the rows among
which they stand, and refer to rows that exist. -/
theorem fault?_eq_none_iff {t : Tables} {k : Kind} {rows new : List k.Row} :
    t.fault? k rows new = none ↔
      (∀ row ∈ new, k.sound row = true) ∧
      (∀ row ∈ new, ∀ other ∈ rows, k.clash row other = false) ∧
      ∀ row ∈ new, t.anchored k row = true := by
  have compared : ((new.filter k.live).any fun row => rows.any (k.clash row)) = false ↔
      ∀ row ∈ new, ∀ other ∈ rows, k.clash row other = false := by
    simp only [List.any_eq_false, List.mem_filter, Bool.not_eq_true, and_imp]
    refine forall₂_congr fun row member => ⟨fun apart => ?_, fun apart _ => apart⟩
    cases alive : k.live row with
    | false => exact fun other _ => Kind.clash_of_not_live alive other
    | true => exact apart alive
  have sound : (!new.all k.sound) = false ↔ ∀ row ∈ new, k.sound row = true := by simp
  have anchored : (!new.all (t.anchored k)) = false ↔ ∀ row ∈ new, t.anchored k row = true := by simp
  rw [← sound, ← compared, ← anchored, fault?]
  cases !new.all k.sound <;> cases (new.filter k.live).any fun row => rows.any (k.clash row) <;>
    cases !new.all (t.anchored k) <;> simp

/-- Rows may take the place of those of a kind if each of them stood there before or is one that the
store takes. -/
def Admits (t : Tables) (k : Kind) (rows : List k.Row) : Prop :=
  ∃ new, (∀ row ∈ rows, row ∈ t.rows k ∨ row ∈ new) ∧ t.fault? k rows new = none

/-- Tables in which no live row has the key of another one. -/
def Unclashed (t : Tables) : Prop :=
  ∀ k, ∀ row ∈ t.rows k, ∀ other ∈ t.rows k, k.clash row other = false

theorem unclashed_empty : empty.Unclashed := by
  intro k row member
  rw [rows_empty] at member
  cases member

namespace Unclashed

variable {t : Tables}

theorem put (unclashed : t.Unclashed) {k : Kind} {rows : List k.Row} (admitted : t.Admits k rows) :
    (t.put k rows).Unclashed := by
  rcases admitted with ⟨new, origin, taken⟩
  have compared : ∀ row ∈ new, ∀ other ∈ rows, k.clash row other = false :=
    (fault?_eq_none_iff.mp taken).2.1
  intro j row member other otherMember
  by_cases same : j = k
  · subst same
    rw [rows_put] at member otherMember
    rcases origin row member with old | added
    · rcases origin other otherMember with otherOld | otherAdded
      · exact unclashed j row old other otherOld
      · rw [Kind.clash_comm]
        exact compared other otherAdded row member
    · exact compared row added other otherMember
  · rw [rows_put_of_ne t _ same] at member otherMember
    exact unclashed j row member other otherMember

/-- Archiving rows sets their keys free. -/
theorem archiveWhere (unclashed : t.Unclashed) (k : Kind) (chosen : k.Row → Bool) (now : Instant) :
    (t.archiveWhere k chosen now).Unclashed := by
  -- A row stands where it stood, or is archived now and clashes with none.
  have rowOr : ∀ j, ∀ row ∈ (t.archiveWhere k chosen now).rows j,
      row ∈ t.rows j ∨ ∀ other, j.clash row other = false := by
    intro j row member
    unfold Tables.archiveWhere at member
    by_cases same : j = k
    · subst same
      rw [rows_put] at member
      rcases List.mem_map.mp member with ⟨old, oldMember, rfl⟩
      split
      · by_cases archives : j = .execution
        · subst archives
          exact .inl oldMember
        · exact .inr (Kind.clash_of_not_live (Kind.live_archived archives now old))
      · exact .inl oldMember
    · rw [rows_put_of_ne t _ same] at member
      exact .inl member
  intro j row member other otherMember
  rcases rowOr j row member with old | apart
  · rcases rowOr j other otherMember with otherOld | otherApart
    · exact unclashed j row old other otherOld
    · rw [Kind.clash_comm]
      exact otherApart row
  · exact apart other

/-- Live rows with one key have one number. -/
theorem number_eq (unclashed : t.Unclashed) {k : Kind} {row other : k.Row} (alive : row ∈ t.live k)
    (otherAlive : other ∈ t.live k) (same : k.sameKey row other = true) :
    k.number row = k.number other := by
  rcases mem_live.mp alive with ⟨member, live⟩
  rcases mem_live.mp otherAlive with ⟨otherMember, otherLive⟩
  have apart := unclashed k row member other otherMember
  simpa [Kind.clash, live, otherLive, same] using apart

end Unclashed
end Tables
end Shop
