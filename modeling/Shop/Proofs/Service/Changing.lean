import Shop.Proofs.Service.Closure

/-!
# Commands that change a row

Six commands change a row that is there: they look up what has to be known first, change the live
row of a number in one statement, and show it.  So whatever the change of that row maintains, the
whole command maintains, whether it ends well or fails.
-/

namespace Shop
namespace Service

open Shop.Action

variable {kept : Tables → Prop}

theorem changeProduct_maintains_of_change {sku : String} {patch : ProductPatch}
    (changes : ∀ t existing, kept t → (t.live .product).find? (·.sku == sku) = some existing →
      (statement (Store.changeProduct existing.id patch)).Maintains kept) :
    (changeProduct sku patch).Maintains kept := by
  refine .lookup fun t existing holds found => ?_
  extract_lets next
  have rest : ∀ x, Action.Maintains kept (next x) := by
    intro _
    refine .bind (changes t existing holds found) fun changed => ?_
    refine .bind (.still (.require _ _)) fun changed => ?_
    exact .bind (.still (showOne_within _)) fun view => .bind (.publish _ _) fun _ =>
      .still (.pure _)
  split
  · exact rest ()
  · split
    · exact rest ()
    · exact .bind (.still (.statement (.passing (.select _) _))) fun _ =>
        .bind (.still (.ensureFree _ _)) rest

theorem renameOption_maintains_of_change {id : Int} {name : String}
    (changes : (statement (Store.renameOption id name)).Maintains kept) :
    (renameOption id name).Maintains kept := by
  refine .bind (.still (.statement (.select _))) fun found => ?_
  refine .bind (.still (.require _ _)) fun existing => ?_
  extract_lets next
  have rest : ∀ x, Action.Maintains kept (next x) := fun _ =>
    .bind changes fun changed => .bind (.still (.require _ _)) fun option =>
      .bind (.still (.statement (.map (.select _) _))) fun view => .still (.pure _)
  split
  · exact rest ()
  · exact .bind (.still (.statement (.passing (.select _) _))) fun _ =>
      .bind (.still (.ensureFree _ _)) rest

theorem changeValue_maintains_of_change {id : Int} {value : String}
    (changes : (statement (Store.changeValue id value)).Maintains kept) :
    (changeValue id value).Maintains kept := by
  refine .bind (.still (.statement (.select _))) fun found => ?_
  refine .bind (.still (.require _ _)) fun existing => ?_
  extract_lets next
  have rest : ∀ x, Action.Maintains kept (next x) := fun _ =>
    .bind changes fun changed => .bind (.still (.require _ _)) fun row => .still (.pure _)
  split
  · exact rest ()
  · exact .bind (.still (.statement (.passing (.select _) _))) fun _ =>
      .bind (.still (.ensureFree _ _)) rest

theorem changeDiscount_maintains_of_change {id : Int} {patch : DiscountPatch}
    (changes : (statement (Store.changeDiscount id patch)).Maintains kept) :
    (changeDiscount id patch).Maintains kept :=
  .bind changes fun _ => .bind (.still (.require _ _)) fun _ => .still (.pure _)

theorem changeWebhook_maintains_of_change {id : Int} {patch : WebhookPatch}
    (changes : (statement (Store.changeWebhook id patch)).Maintains kept) :
    (changeWebhook id patch).Maintains kept :=
  .bind changes fun _ => .bind (.still (.require _ _)) fun _ => .still (.pure _)

/-- A new password may be hashed before the change, and refused. -/
theorem changeUser_maintains_of_change {id : Int} {change : UserChange}
    (changes : ∀ hash, (statement (Store.changeUser id (change.patch hash))).Maintains kept) :
    (changeUser id change).Maintains kept := by
  refine .bind (.still (.statement (.select _))) fun found => ?_
  refine .bind (.still (.require _ _)) fun existing => ?_
  extract_lets afterHash afterName
  have hashed : ∀ hash, Action.Maintains kept (afterHash hash) := fun hash =>
    .bind (changes hash) fun changed => .bind (.still (.require _ _)) fun user => .still (.pure _)
  have named : ∀ x, Action.Maintains kept (afterName x) := by
    intro _
    unfold afterName
    split
    · exact hashed none
    · exact .bind (.still (newHash_within _ _ _)) fun hash => hashed _
  split
  · exact named ()
  · exact .bind (.still (.statement (.passing (.select _) _))) fun _ =>
      .bind (.still (.ensureFree _ _)) named

end Service
end Shop
