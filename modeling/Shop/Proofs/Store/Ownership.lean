import Shop.Proofs.Store.Growth
import Shop.Store.Statement

/-!
# What rows own

Images, options and products belong to a root, values to an option and links to a product.  Tables
are closed under ownership when a row that is live belongs to a row that is live.  They stay closed
when they gain rows that belong to live rows, when rows change in what says nothing of their owners,
and when rows are archived together with all that belongs to them.
-/

namespace Shop
namespace Kind

/-- The row to which a row belongs, by its kind and number. -/
def owner? : (k : Kind) → k.Row → Option (Kind × Int)
  | .image, r => some (.root, r.rootId)
  | .option, r => some (.root, r.rootId)
  | .value, r => some (.option, r.optionId)
  | .product, r => some (.root, r.rootId)
  | .link, r => some (.product, r.productId)
  | _, _ => none

def owned : Kind → Bool
  | .image | .option | .value | .product | .link => true
  | _ => false

def owning : Kind → Bool
  | .root | .option | .product => true
  | _ => false

theorem owner?_of_not_owned {k : Kind} (free : k.owned = false) (row : k.Row) :
    k.owner? row = none := by
  cases k with
  | image | option | value | product | link => cases free
  | _ => rfl

theorem owning_of_owner? {j k : Kind} {row : k.Row} {n : Int} (owner : k.owner? row = some (j, n)) :
    j.owning = true := by
  cases k <;> cases owner <;> rfl

/-- A row that changed in what identifies it neither by itself nor to others, and is archived if and
only if it was. -/
structure Keeps (k : Kind) (row changed : k.Row) : Prop where
  number : k.number changed = k.number row
  owner : k.owner? changed = k.owner? row
  archivedOn : k.archivedOn changed = k.archivedOn row

theorem Keeps.live {k : Kind} {row changed : k.Row} (keeps : k.Keeps row changed) :
    k.live changed = k.live row := by
  rw [Kind.live, keeps.archivedOn, Kind.live]

/-- A row that was archived is live no more.  Executions are never archived. -/
theorem live_archived {k : Kind} (archives : k ≠ .execution) (now : Instant) (row : k.Row) :
    k.live (k.archived now row) = false := by
  cases k with
  | execution => exact absurd rfl archives
  | _ => rfl

end Kind

namespace Tables

theorem mem_live {t : Tables} {k : Kind} {row : k.Row} :
    row ∈ t.live k ↔ row ∈ t.rows k ∧ k.live row = true := List.mem_filter

theorem live_append (s t : Tables) (k : Kind) : (s ++ t).live k = s.live k ++ t.live k := by
  rw [live, rows_append, List.filter_append]
  rfl

theorem put_rows (t : Tables) (k : Kind) : t.put k (t.rows k) = t := by
  cases k <;> rfl

/-- Changes that neither archive nor revive a row change the live rows one by one. -/
theorem live_put_map (t : Tables) (k : Kind) {change : k.Row → k.Row}
    (keeps : ∀ row, k.live (change row) = k.live row) :
    (t.put k ((t.rows k).map change)).live k = (t.live k).map change := by
  have same : k.live ∘ change = k.live := funext keeps
  rw [live, rows_put, List.filter_map, same]
  rfl

/-- The tables after the live rows of a kind that a condition chooses were archived. -/
def archiveWhere (t : Tables) (k : Kind) (chosen : k.Row → Bool) (now : Instant) : Tables :=
  t.put k ((t.rows k).map fun row => if k.live row && chosen row then k.archived now row else row)

/-- The rows that are left are the live ones that were not chosen. -/
theorem live_archiveWhere (t : Tables) {k : Kind} (archives : k ≠ .execution)
    (chosen : k.Row → Bool) (now : Instant) :
    (t.archiveWhere k chosen now).live k = (t.live k).filter fun row => !chosen row := by
  rw [live, live, archiveWhere, rows_put]
  induction t.rows k with
  | nil => rfl
  | cons row rows inductionHypothesis =>
    rw [List.map_cons, List.filter_cons, inductionHypothesis, List.filter_cons]
    cases alive : k.live row with
    | false => simp [alive]
    | true =>
      cases picked : chosen row with
      | false => simp [alive, picked]
      | true => simp [picked, Kind.live_archived archives]

theorem live_archiveWhere_of_ne (t : Tables) {j k : Kind} (different : j ≠ k)
    (chosen : k.Row → Bool) (now : Instant) : (t.archiveWhere k chosen now).live j = t.live j := by
  rw [live, live, archiveWhere, rows_put_of_ne t _ different]

/-- The tables after the live rows that go were archived, one kind after the other. -/
def archiveEach (t : Tables) (kinds : List Kind) (gone : (k : Kind) → k.Row → Bool)
    (now : Instant) : Tables :=
  kinds.foldl (fun t k => t.archiveWhere k (gone k) now) t

/-- The rows of these kinds that are left are the live ones that do not go. -/
theorem live_archiveEach (t : Tables) {kinds : List Kind} (archives : .execution ∉ kinds)
    (gone : (k : Kind) → k.Row → Bool) (now : Instant) (k : Kind) :
    (t.archiveEach kinds gone now).live k =
      if k ∈ kinds then (t.live k).filter fun row => !gone k row else t.live k := by
  induction kinds generalizing t with
  | nil => rfl
  | cons first kinds inductionHypothesis =>
    rcases not_or.mp (mt List.mem_cons.mpr archives) with ⟨firstArchives, archives⟩
    rw [archiveEach, List.foldl_cons, ← archiveEach, inductionHypothesis _ archives]
    by_cases same : k = first
    · subst same
      rw [live_archiveWhere t (Ne.symm firstArchives), if_pos List.mem_cons_self]
      split
      · rw [List.filter_filter]
        simp only [Bool.and_self]
      · rfl
    · rw [live_archiveWhere_of_ne t same]
      simp only [List.mem_cons, same, false_or]

/-- A live row of a kind has a number. -/
def Has (t : Tables) (k : Kind) (n : Int) : Prop :=
  ∃ row ∈ t.live k, k.number row = n

theorem Has.append {t : Tables} {k : Kind} {n : Int} (has : t.Has k n) (new : Tables) :
    (t ++ new).Has k n := by
  rcases has with ⟨row, member, number⟩
  rw [mem_live] at member
  refine ⟨row, ?_, number⟩
  rw [mem_live, rows_append]
  exact ⟨List.mem_append_left _ member.1, member.2⟩

theorem has_append {t new : Tables} {k : Kind} {row : k.Row} (member : row ∈ new.rows k)
    (alive : k.live row = true) : (t ++ new).Has k (k.number row) := by
  refine ⟨row, ?_, rfl⟩
  rw [mem_live, rows_append]
  exact ⟨List.mem_append_right _ member, alive⟩

/-- Every live row that belongs to a row belongs to a live one. -/
def Owned (t : Tables) : Prop :=
  ∀ k, ∀ row ∈ t.live k, ∀ j n, k.owner? row = some (j, n) → t.Has j n

theorem owned_empty : empty.Owned := by
  intro k row member
  rw [mem_live, rows_empty] at member
  cases member.1

namespace Owned

variable {t t' : Tables}

/-- Rows may be gained that belong to live rows, be these old or gained as well. -/
theorem gain (owned : t.Owned) {new : Tables}
    (belong : ∀ k, ∀ row ∈ new.rows k, ∀ j n, k.owner? row = some (j, n) → (t ++ new).Has j n) :
    (t ++ new).Owned := by
  intro k row member j n belongs
  rw [mem_live, rows_append] at member
  rcases member with ⟨inRows, alive⟩
  rcases List.mem_append.mp inRows with old | gained
  · exact (owned k row (mem_live.mpr ⟨old, alive⟩) j n belongs).append new
  · exact belong k row gained j n belongs

/-- A row may be gained that belongs to a live row or to none. -/
theorem gainOne (owned : t.Owned) {k : Kind} {row : k.Row}
    (belongs : ∀ j n, k.owner? row = some (j, n) → t.Has j n) : (t ++ .only k [row]).Owned := by
  refine owned.gain (forall_rows_only.mpr ?_)
  intro other member j n owner
  rcases List.mem_singleton.mp member with rfl
  exact (belongs j n owner).append _

/-- Rows may change in what says nothing of their owners. -/
theorem amend (owned : t.Owned) (k : Kind) (change : k.Row → k.Row)
    (keeps : ∀ row, k.Keeps row (change row)) : (t.put k ((t.rows k).map change)).Owned := by
  -- Every row stands for one that was there, with the same number and owner, live if it was.
  have before : ∀ j, ∀ row ∈ (t.put k ((t.rows k).map change)).live j,
      ∃ old ∈ t.live j, j.owner? row = j.owner? old := by
    intro j row member
    rw [mem_live] at member
    by_cases same : j = k
    · subst same
      rw [rows_put] at member
      rcases member with ⟨inRows, alive⟩
      rcases List.mem_map.mp inRows with ⟨old, oldMember, rfl⟩
      rw [(keeps old).live] at alive
      exact ⟨old, mem_live.mpr ⟨oldMember, alive⟩, (keeps old).owner⟩
    · rw [rows_put_of_ne t _ same] at member
      exact ⟨row, mem_live.mpr member, rfl⟩
  have after : ∀ j, ∀ old ∈ t.live j,
      ∃ row ∈ (t.put k ((t.rows k).map change)).live j, j.number row = j.number old := by
    intro j old member
    rw [mem_live] at member
    by_cases same : j = k
    · subst same
      refine ⟨change old, mem_live.mpr ⟨?_, ?_⟩, (keeps old).number⟩
      · rw [rows_put]
        exact List.mem_map_of_mem member.1
      · rw [(keeps old).live]
        exact member.2
    · refine ⟨old, mem_live.mpr ⟨?_, member.2⟩, rfl⟩
      rw [rows_put_of_ne t _ same]
      exact member.1
  intro j row member i n belongs
  rcases before j row member with ⟨old, oldMember, owner⟩
  rw [owner] at belongs
  rcases owned j old oldMember i n belongs with ⟨oldOwner, ownerMember, rfl⟩
  exact after i oldOwner ownerMember

/-- Rows may be archived together with all that belongs to them. -/
theorem cascade (owned : t.Owned) {kinds : List Kind} (archives : .execution ∉ kinds)
    {gone : (k : Kind) → k.Row → Bool} (now : Instant)
    (stay : ∀ k, k ∉ kinds → ∀ row, gone k row = false)
    (followed : ∀ k row j, ∀ owner ∈ t.live j, k.owner? row = some (j, j.number owner) →
      gone j owner = true → gone k row = true) :
    (t.archiveEach kinds gone now).Owned := by
  have left (k : Kind) : (t.archiveEach kinds gone now).live k =
      (t.live k).filter fun row => !gone k row := by
    rw [live_archiveEach t archives]
    split
    · rfl
    · refine (List.filter_eq_self.mpr fun row _ => ?_).symm
      rw [stay k ‹_› row]
      rfl
  intro k row member j n belongs
  rw [left, List.mem_filter] at member
  rcases member with ⟨alive, stays⟩
  rcases owned k row alive j n belongs with ⟨owner, ownerAlive, rfl⟩
  refine ⟨owner, ?_, rfl⟩
  rw [left, List.mem_filter]
  refine ⟨ownerAlive, ?_⟩
  cases archived : gone j owner with
  | false => rfl
  | true =>
    rw [followed k row j owner ownerAlive belongs archived] at stays
    cases stays

/-- Rows to which nothing belongs may be archived by themselves. -/
theorem archiveWhere (owned : t.Owned) {k : Kind} (free : k.owning = false) (chosen : k.Row → Bool)
    (now : Instant) : (t.archiveWhere k chosen now).Owned := by
  by_cases archives : k = .execution
  · subst archives
    refine owned.amend .execution _ fun row => ?_
    split <;> exact ⟨rfl, rfl, rfl⟩
  · intro j row member i n belongs
    have alive : row ∈ t.live j := by
      by_cases same : j = k
      · subst same
        rw [live_archiveWhere t archives] at member
        exact (List.mem_filter.mp member).1
      · rwa [live_archiveWhere_of_ne t same] at member
    rcases owned j row alive i n belongs with ⟨owner, ownerAlive, number⟩
    refine ⟨owner, ?_, number⟩
    have different : i ≠ k := by
      rintro rfl
      rw [Kind.owning_of_owner? belongs] at free
      cases free
    rwa [live_archiveWhere_of_ne t different]

end Owned
end Tables
end Shop
