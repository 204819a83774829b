import Shop.Proofs.Store.Ownership

/-!
# Rows that last

Tables continue others when they still have every row of them.  A row is known by its number; what
made it, when that was and what it refers to stay with it for good, and a row that was archived
stays as it was in everything.  Tables continue those from which they come by gaining rows, by
changing live rows in what may change, and by archiving.
-/

namespace Shop
namespace Kind

/-- When a row was made.  An execution is made when it is executed. -/
def createdOn : (k : Kind) → k.Row → Instant
  | .root, r => r.stamps.createdOn
  | .image, r => r.stamps.createdOn
  | .option, r => r.stamps.createdOn
  | .value, r => r.stamps.createdOn
  | .product, r => r.stamps.createdOn
  | .link, r => r.createdOn
  | .discount, r => r.stamps.createdOn
  | .webhook, r => r.stamps.createdOn
  | .execution, r => r.executedOn
  | .user, r => r.stamps.createdOn

/-- The rows to which a row refers, by their kinds and numbers.  The image of a root or product is
not among them, since it is chosen after the row was made. -/
def references : (k : Kind) → k.Row → List (Kind × Int)
  | .image, r => [(.root, r.rootId)]
  | .option, r => [(.root, r.rootId)]
  | .value, r => [(.option, r.optionId)]
  | .product, r => [(.root, r.rootId)]
  | .link, r => [(.product, r.productId), (.value, r.valueId)]
  | .execution, r => [(.webhook, r.webhookId)]
  | _, _ => []

/-- What a product says of the values that it was made from. -/
def summary? : (k : Kind) → k.Row → Option String
  | .product, r => some r.optionSummary
  | _, _ => none

/-- A row at a later time: the same in what it was made with, and in everything if it was
archived. -/
structure Continues (k : Kind) (row later : k.Row) : Prop where
  number : k.number later = k.number row
  created : k.createdOn later = k.createdOn row
  references : k.references later = k.references row
  summary : k.summary? later = k.summary? row
  settled : k.live row = false → later = row

namespace Continues

variable {k : Kind} {row later latest : k.Row}

theorem refl (row : k.Row) : k.Continues row row :=
  ⟨rfl, rfl, rfl, rfl, fun _ => rfl⟩

theorem trans (first : k.Continues row later) (second : k.Continues later latest) :
    k.Continues row latest where
  number := second.number.trans first.number
  created := second.created.trans first.created
  references := second.references.trans first.references
  summary := second.summary.trans first.summary
  settled archived := by
    rcases first.settled archived with rfl
    exact second.settled archived

/-- A live row may change in all but what it was made with. -/
theorem of_live (alive : k.live row = true) (number : k.number later = k.number row)
    (created : k.createdOn later = k.createdOn row)
    (references : k.references later = k.references row)
    (summary : k.summary? later = k.summary? row) : k.Continues row later := by
  refine ⟨number, created, references, summary, fun archived => ?_⟩
  rw [alive] at archived
  cases archived

theorem archived (now : Instant) (alive : k.live row = true) :
    k.Continues row (k.archived now row) := by
  cases k <;> exact of_live alive rfl rfl rfl rfl

end Continues
end Kind

namespace Tables

/-- Later tables, which still have every row. -/
def Continues (t t' : Tables) : Prop :=
  ∀ k, ∀ row ∈ t.rows k, ∃ later ∈ t'.rows k, k.Continues row later

namespace Continues

variable {t u v : Tables}

theorem refl (t : Tables) : t.Continues t :=
  fun _ row member => ⟨row, member, .refl row⟩

theorem trans (first : t.Continues u) (second : u.Continues v) : t.Continues v := by
  intro k row member
  rcases first k row member with ⟨later, laterMember, continued⟩
  rcases second k later laterMember with ⟨latest, latestMember, continuedAgain⟩
  exact ⟨latest, latestMember, continued.trans continuedAgain⟩

/-- Tables continue in those that gained rows. -/
theorem append (t new : Tables) : t.Continues (t ++ new) := by
  intro k row member
  refine ⟨row, ?_, .refl row⟩
  rw [rows_append]
  exact List.mem_append_left _ member

theorem insert (t : Tables) (k : Kind) (new : List k.Row) :
    t.Continues (t.put k (t.rows k ++ new)) := by
  rw [← append_only]
  exact append t _

/-- The rows of a kind may change if each continues. -/
theorem change (t : Tables) {k : Kind} {change : k.Row → k.Row}
    (continues : ∀ row, k.Continues row (change row)) :
    t.Continues (t.put k ((t.rows k).map change)) := by
  intro j row member
  by_cases same : j = k
  · subst same
    refine ⟨change row, ?_, continues row⟩
    rw [rows_put]
    exact List.mem_map_of_mem member
  · refine ⟨row, ?_, .refl row⟩
    rwa [rows_put_of_ne t _ same]

theorem archiveWhere (t : Tables) (k : Kind) (chosen : k.Row → Bool) (now : Instant) :
    t.Continues (t.archiveWhere k chosen now) := by
  refine change t fun row => ?_
  split
  · rename_i both
    exact .archived now (Bool.and_eq_true_iff.mp both).1
  · exact .refl row

end Continues
end Tables
end Shop
