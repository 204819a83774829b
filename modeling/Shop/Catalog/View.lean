import Shop.Catalog.Row

/-!
# Views of the catalogue

Rows together with the rows that are shown inside them.
-/

namespace Shop

structure OptionView where
  option : ProductOption
  values : List OptionValue

structure ProductView where
  product : Product
  applicableOptions : List OptionValue

structure RootView where
  root : ProductRoot
  options : List OptionView
  images : List ProductImage
  products : List ProductView

/-- A root with its products, as it stands in lists. -/
structure RootSummary where
  root : ProductRoot
  products : List ProductView

def OptionView.toJson (v : OptionView) : Json :=
  .object ([("id", .int v.option.id), ("name", .text v.option.name),
    ("product_root_id", .int v.option.rootId)] ++ v.option.stamps.members ++
    [("values", .list (v.values.map (·.toJson)))])

def ProductView.toJson (v : ProductView) : Json :=
  let p := v.product
  .object ([("id", .int p.id), ("product_root_id", .int p.rootId),
    ("primary_image_id", .ofOption .int p.primaryImageId), ("sku", .text p.sku),
    ("option_summary", .text p.optionSummary)] ++ p.listing.members ++ p.offer.members ++
    p.stamps.members ++ [("applicable_options", .list (v.applicableOptions.map (·.toJson)))])

def RootView.toJson (v : RootView) : Json :=
  .object (v.root.members ++ [("options", .list (v.options.map (·.toJson))),
    ("images", .list (v.images.map (·.toJson))),
    ("products", .list (v.products.map (·.toJson)))])

def RootSummary.toJson (v : RootSummary) : Json :=
  .object (v.root.members ++ [("products", .list (v.products.map (·.toJson)))])

end Shop
