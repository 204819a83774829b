import Shop.Rule.Rules
import Shop.Store.Fault
import Shop.Store.Tables

/-!
# Conditions on rows

What the store demands of a row beside its type: conditions on the row alone, keys that no two live
rows share, and references to rows that exist, archived or not.
-/

namespace Shop
namespace Kind

/-- Whether a row keeps the conditions of its table. -/
def sound : (k : Kind) → k.Row → Bool
  | .root, r => 1 ≤ r.listing.quantityPerPackage
  | .product, r => 1 ≤ r.listing.quantityPerPackage
  | .discount, r => Rule.discountTypes.contains r.discountType
  | _, _ => true

def sameKey : (k : Kind) → k.Row → k.Row → Bool
  | .root, r, s => r.skuPrefix == s.skuPrefix
  | .option, r, s => r.rootId == s.rootId && r.name == s.name
  | .value, r, s => r.optionId == s.optionId && r.value == s.value
  | .product, r, s => r.sku == s.sku
  | .user, r, s => r.username == s.username
  | _, _, _ => false

/-- The index that keeps the keys of live rows apart. -/
def index : Kind → String
  | .root => "uq_product_roots_sku_prefix"
  | .option => "uq_product_options_root_name"
  | .value => "uq_product_option_values_option_value"
  | .product => "uq_products_sku"
  | .user => "uq_users_username"
  | _ => ""

/-- Whether two different rows may not both stand in the table. -/
def clash (k : Kind) (r s : k.Row) : Bool :=
  k.number r != k.number s && k.live r && k.live s && k.sameKey r s

end Kind

namespace Tables

def has (t : Tables) (k : Kind) (id : Int) : Bool := (t.rows k).any (k.number · == id)

/-- Whether all rows that a row refers to exist. -/
def anchored (t : Tables) : (k : Kind) → k.Row → Bool
  | .root, r => r.primaryImageId.all (t.has .image)
  | .image, r => t.has .root r.rootId
  | .option, r => t.has .root r.rootId
  | .value, r => t.has .option r.optionId
  | .product, r => t.has .root r.rootId && r.primaryImageId.all (t.has .image)
  | .link, r => t.has .product r.productId && t.has .value r.valueId
  | .execution, r => t.has .webhook r.webhookId
  | _, _ => true

/-- Why rows of a kind may not take their places in the table `rows`, which holds them already. -/
def fault? (t : Tables) (k : Kind) (rows new : List k.Row) : Option StoreFault :=
  if !new.all k.sound then some .unsoundRow
  else if (new.filter k.live).any fun r => rows.any (k.clash r) then some (.duplicateKey k.index)
  else if !new.all (t.anchored k) then some .danglingRow
  else none

end Tables
end Shop
