import Shop.Service.Roots

/-!
# Requests about products

Products are addressed by their SKUs.  A product that changes or is archived is told to the
webhooks.
-/

namespace Shop
namespace Service

open Shop.Action

def noProduct (sku : String) : Refusal := .missingBy "product" "sku" sku

def showOne (product : Product) : Action ProductView := statement
  ((Store.withOptions [product]).map fun views => views.headD ⟨product, []⟩)

def listProducts (page : Page) : Action Reply := do
  let products ← statement (.page .product page fun _ => true)
  let count ← statement (.count .product fun _ => true)
  let views ← showProducts products
  return .ok (page.envelope count (views.map (·.toJson)))

def loadProduct (sku : String) : Action ProductView := do
  let product ← require (noProduct sku) (← statement (Store.productBySku sku))
  showOne product

def showProduct (sku : String) : Action Reply := do
  return .ok (← loadProduct sku).toJson

def probeProduct (sku : String) : Action Reply := do
  let found ← statement (Store.skuTaken sku)
  return ⟨if found then 200 else 404, none⟩

/-- Change a product.  Another product's SKU is refused. -/
def changeProduct (sku : String) (patch : ProductPatch) : Action Reply := do
  let existing ← require (noProduct sku) (← statement (Store.productBySku sku))
  match patch.sku with
  | none => pure ()
  | some newSku =>
    if newSku = existing.sku then pure ()
    else
      ensureFree (← statement (Store.skuTaken newSku))
        ("product with sku '" ++ newSku ++ "' already exists")
  let changed ← require (noProduct sku) (← statement (Store.changeProduct existing.id patch))
  let view ← showOne changed
  publish Rule.productUpdated view.toJson
  return .ok view.toJson

/-- Archive a product and its links.  The reply shows the values it had. -/
def archiveProduct (sku : String) : Action Reply := do
  let existing ← loadProduct sku
  let product ← transaction (do
    statement (Store.archiveLinksOf existing.product.id)
    require (noProduct sku) (← statement (.archive .product existing.product.id)))
  let view : ProductView := { existing with product }
  publish Rule.productArchived view.toJson
  return .ok view.toJson

end Service
end Shop
