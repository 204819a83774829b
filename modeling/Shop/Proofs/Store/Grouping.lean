import Shop.Store.Groups

/-!
# What owners are handed

Rows that were looked up for several owners at once come to each as if it had looked up its own, as
long as no owner comes twice: the rows of an owner are those of its number, in the order in which
they were found.
-/

namespace Shop
namespace Groups

variable {α β γ : Type}

theorem foldl_add (owner : β → Int) (groups : Groups β) (rows : List β) (n : Int) :
    rows.foldl (fun groups row => groups.add (owner row) row) groups n =
      groups n ++ rows.filter (owner · == n) := by
  induction rows generalizing groups with
  | nil => exact (List.append_nil _).symm
  | cons row rows inductionHypothesis =>
    rw [List.foldl_cons, inductionHypothesis, List.filter_cons, add]
    by_cases own : n = owner row
    · simp [own]
    · simp [own, beq_eq_false_iff_ne.mpr (Ne.symm own)]

theorem ofRows_apply (owner : β → Int) (rows : List β) (n : Int) :
    ofRows owner rows n = rows.filter (owner · == n) :=
  foldl_add owner empty rows n

/-- Where no owner comes twice, what others have taken is missed by none. -/
theorem handOut_eq_map {number : α → Int} {owners : List α} (distinct : (owners.map number).Nodup)
    (give : α → List β → γ) (groups : Groups β) :
    handOut number give groups owners = owners.map fun a => give a (groups (number a)) := by
  induction owners generalizing groups with
  | nil => rfl
  | cons a rest inductionHypothesis =>
    rcases List.nodup_cons.mp distinct with ⟨fresh, distinct⟩
    rw [handOut, inductionHypothesis distinct, List.map_cons]
    refine congrArg _ (List.map_congr_left fun b member => ?_)
    have other : number b ≠ number a := fun same =>
      fresh (same ▸ List.mem_map_of_mem member)
    rw [remove, if_neg other]

theorem handOut_ofRows {number : α → Int} {owners : List α} (distinct : (owners.map number).Nodup)
    (give : α → List β → γ) (owner : β → Int) (rows : List β) :
    (ofRows owner rows).handOut number give owners =
      owners.map fun a => give a (rows.filter (owner · == number a)) := by
  rw [handOut_eq_map distinct]
  refine List.map_congr_left fun a _ => ?_
  rw [ofRows_apply]

end Groups
end Shop
