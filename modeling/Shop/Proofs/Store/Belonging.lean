import Shop.Proofs.Store.Conditions

/-!
# Rows that belong to a root

A row belongs to a root if it is the root itself or if its owner belongs to the root, so a value
belongs to the root of its option and a link to that of its product.  It makes no difference whether
the rows on the way are archived.  Where numbers are unique a row belongs to one root at most, and
rows that were there before a root belong to another one or to none.
-/

namespace Shop
namespace Tables

/-- A row belongs to the root of a number. -/
inductive BelongsTo (t : Tables) (rootId : Int) : (k : Kind) → k.Row → Prop
  | root {row : ProductRoot} (own : row.id = rootId) : BelongsTo t rootId .root row
  | owned {k j : Kind} {row : k.Row} {owner : j.Row} (member : owner ∈ t.rows j)
    (belongs : k.owner? row = some (j, j.number owner)) (above : BelongsTo t rootId j owner) :
    BelongsTo t rootId k row

/-- Owners are among the rows. -/
theorem Conforms.owner_mem {t : Tables} (conforms : t.Conforms) {k j : Kind} {row : k.Row} {n : Int}
    (member : row ∈ t.rows k) (belongs : k.owner? row = some (j, n)) :
    ∃ owner ∈ t.rows j, j.number owner = n := by
  have anchored := conforms.anchored k row member
  apply has_iff.mp
  cases k with
  | image | option | value =>
    cases belongs
    exact anchored
  | product | link =>
    cases belongs
    exact (Bool.and_eq_true_iff.mp anchored).1
  | _ => cases belongs

namespace BelongsTo

variable {t t' : Tables} {drawn : Sequences} {rootId : Int} {k : Kind} {row : k.Row}

theorem of_owner {j : Kind} {owner : j.Row} {n : Int} (member : owner ∈ t.rows j)
    (belongs : k.owner? row = some (j, n)) (same : n = j.number owner)
    (above : t.BelongsTo rootId j owner) : t.BelongsTo rootId k row :=
  .owned member (same ▸ belongs) above

/-- To which root a row belongs depends on its number and its owner alone. -/
theorem congr (belongs : t.BelongsTo rootId k row) {other : k.Row}
    (number : k.number other = k.number row) (owner : k.owner? other = k.owner? row) :
    t.BelongsTo rootId k other := by
  cases belongs with
  | root own => exact .root (number.trans own)
  | owned member belongs above => exact .owned member (owner.trans belongs) above

/-- Rows that stand for others of the same numbers and owners belong where these do. -/
theorem before (belongs : t'.BelongsTo rootId k row)
    (stands : ∀ j, ∀ later ∈ t'.rows j, ∃ old ∈ t.rows j,
      j.number later = j.number old ∧ j.owner? later = j.owner? old) :
    t.BelongsTo rootId k row := by
  induction belongs with
  | root own => exact .root own
  | owned member belongs above inductionHypothesis =>
    rcases stands _ _ member with ⟨old, oldMember, number, owner⟩
    rw [number] at belongs
    exact .owned oldMember belongs (inductionHypothesis.congr number.symm owner.symm)

/-- A row belongs to one root at most. -/
theorem unique (numbered : t.Numbered drawn) (belongs : t.BelongsTo rootId k row) {otherId : Int}
    (other : t.BelongsTo otherId k row) : rootId = otherId := by
  induction belongs with
  | root own =>
    cases other with
    | root otherOwn => exact own.symm.trans otherOwn
    | owned _ belongs _ => cases belongs
  | owned member belongs above inductionHypothesis =>
    cases other with
    | root _ => cases belongs
    | owned otherMember otherBelongs otherAbove =>
      rcases Prod.mk.inj (Option.some.inj (belongs.symm.trans otherBelongs)) with ⟨rfl, same⟩
      rcases numbered.eq_of_number member otherMember same with rfl
      exact inductionHypothesis otherAbove

/-- What belongs to a root that was gained was not there before. -/
theorem not_mem {new : Tables} (gains : t.Gains new t') (conforms : t.Conforms)
    (numbered : t'.Numbered drawn) {root : ProductRoot} (gained : root ∈ new.rows .root)
    (belongs : t'.BelongsTo root.id k row) : row ∉ t.rows k := by
  have kept {j : Kind} {old : j.Row} (member : old ∈ t.rows j) : old ∈ t'.rows j := by
    rw [gains.eq_append, rows_append]
    exact List.mem_append_left _ member
  induction belongs with
  | root own => exact fun old => gains.unused .root root gained _ old own.symm
  | owned member belongs above inductionHypothesis =>
    intro old
    rcases conforms.owner_mem old belongs with ⟨owner, oldOwner, same⟩
    rcases numbered.eq_of_number (kept oldOwner) member same with rfl
    exact inductionHypothesis oldOwner

end BelongsTo
end Tables
end Shop
