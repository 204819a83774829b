import Shop.Catalog.Patch
import Shop.Catalog.View
import Shop.Store.Groups
import Shop.Store.Statement

/-!
# Statements on the catalogue

How roots, images, options, values, products and links are written, found, listed, changed and
archived.  A product shows the values it is linked to by live links, in the order of their options
and then of the values themselves, whatever has become of those values.  The values of several
products or options are looked up together.
-/

namespace Shop

/-! ## Rows as the store keeps them -/

def Listing.stored (l : Listing) : Listing := { l with availableOn := l.availableOn.stored }

/-- What a listing passes to the store. -/
def Listing.parameters (l : Listing) : List Parameter :=
  .time l.availableOn :: Parameter.texts [l.name, l.subtitle, l.description, l.manufacturer, l.brand]

/-- What a change of a product passes to the store. -/
def ProductPatch.parameters (p : ProductPatch) : List Parameter :=
  Parameter.textsOf [p.name, p.subtitle, p.description, p.sku, p.upc, p.manufacturer, p.brand] ++
    Parameter.timesOf [p.availableOn]

def ProductPatch.stored (p : ProductPatch) : ProductPatch :=
  { p with availableOn := p.availableOn.map (·.stored) }

/-! ## Views -/

namespace Tables

/-- Whether a value stands before another: by its option, then by its number. -/
def valueOrder (v w : OptionValue) : Bool :=
  decide (v.optionId < w.optionId) || (v.optionId == w.optionId && decide (v.id ≤ w.id))

/-- Whether the value of a product stands before that of another: by the product, then as values
do. -/
def linkedOrder (a b : Int × OptionValue) : Bool :=
  decide (a.1 < b.1) || (a.1 == b.1 && valueOrder a.2 b.2)

/-- The live links of some products joined with the values, each value beside its product. -/
def linkedRows (t : Tables) (productIds : List Int) : List (Int × OptionValue) :=
  (((t.live .link).filter fun link => productIds.contains link.productId).flatMap fun link =>
    (t.values.filter (·.id == link.valueId)).map fun v => (link.productId, v)).mergeSort linkedOrder

/-- The live values of some options. -/
def valueRows (t : Tables) (optionIds : List Int) : List OptionValue :=
  ((t.live .value).filter fun v => optionIds.contains v.optionId).mergeSort valueOrder

def productViews (t : Tables) (products : List Product) : List ProductView :=
  (Groups.ofRows Prod.fst (t.linkedRows (products.map (·.id)))).handOut (·.id)
    (fun product rows => ⟨product, rows.map Prod.snd⟩) products

def optionViews (t : Tables) (options : List ProductOption) : List OptionView :=
  (Groups.ofRows (·.optionId) (t.valueRows (options.map (·.id)))).handOut (·.id) OptionView.mk
    options

def isOfRoot (t : Tables) (productId rootId : Int) : Bool :=
  t.products.any fun p => p.id == productId && p.rootId == rootId

def isOptionOf (t : Tables) (optionId rootId : Int) : Bool :=
  t.options.any fun o => o.id == optionId && o.rootId == rootId

end Tables

namespace Store

open Statement

/-! ## Roots -/

def createRoot (n : NewRoot) : Statement ProductRoot :=
  passing (.text n.skuPrefix :: n.listing.parameters)
    (insert .root fun now => NewRoot.row ⟨n.skuPrefix, n.listing.stored⟩ now)

def prefixTaken (skuPrefix : String) : Statement Bool :=
  passing [.text skuPrefix] (any .root (·.skuPrefix == skuPrefix))

def setRootImage (rootId imageId : Int) : Statement Unit :=
  (update .root (fun _ r => r.id == rootId) fun _ r =>
    { r with primaryImageId := some imageId }).map fun _ => ()

/-! ## Images -/

def createImage (n : NewImage) : Statement ProductImage :=
  passing (Parameter.texts [n.thumbnailUrl, n.mainUrl, n.fullUrl, n.sourceUrl])
    (insert .image n.row)

def imagesOf (rootId : Int) : Statement (List ProductImage) :=
  select fun t => (t.live .image).filter (·.rootId == rootId)

def archiveImagesOf (rootId : Int) : Statement Unit :=
  archiveAll .image fun _ r => r.rootId == rootId

/-! ## Options -/

def createOption (rootId : Int) (name : String) : Statement ProductOption :=
  passing [.text name] (insert .option (ProductOption.new rootId name))

def optionsOf (rootId : Int) : Statement (List ProductOption) :=
  select fun t => (t.live .option).filter (·.rootId == rootId)

def optionTaken (rootId : Int) (name : String) : Statement Bool :=
  passing [.text name] (any .option fun o => o.rootId == rootId && o.name == name)

def renameOption (id : Int) (name : String) : Statement (Option ProductOption) :=
  passing [.text name] (updateLive .option id fun now o =>
    { o with name, stamps := o.stamps.updated now })

def archiveOptionsOf (rootId : Int) : Statement Unit :=
  archiveAll .option fun _ r => r.rootId == rootId

/-! ## Values -/

def createValue (optionId : Int) (value : String) : Statement OptionValue :=
  passing [.text value] (insert .value (OptionValue.new optionId value))

def withValues (options : List ProductOption) : Statement (List OptionView) :=
  select fun t => t.optionViews options

def valueTaken (optionId : Int) (value : String) : Statement Bool :=
  passing [.text value] (any .value fun v => v.optionId == optionId && v.value == value)

def changeValue (id : Int) (value : String) : Statement (Option OptionValue) :=
  passing [.text value] (updateLive .value id fun now v =>
    { v with value, stamps := v.stamps.updated now })

def archiveValuesOf (optionId : Int) : Statement Unit :=
  archiveAll .value fun _ r => r.optionId == optionId

def archiveValuesOfRoot (rootId : Int) : Statement Unit :=
  archiveAll .value fun t r => t.isOptionOf r.optionId rootId

/-! ## Products -/

def createProduct (n : NewProduct) : Statement Product :=
  passing (n.listing.parameters ++ Parameter.texts [n.sku, n.optionSummary, n.offer.upc])
    (insert .product fun now => NewProduct.row { n with listing := n.listing.stored } now)

def productBySku (sku : String) : Statement (Option Product) :=
  passing [.text sku] (select fun t => (t.live .product).find? (·.sku == sku))

def skuTaken (sku : String) : Statement Bool :=
  passing [.text sku] (any .product (·.sku == sku))

def productsOf (rootIds : List Int) : Statement (List Product) :=
  select fun t => (t.live .product).filter fun p => rootIds.contains p.rootId

def withOptions (products : List Product) : Statement (List ProductView) :=
  select fun t => t.productViews products

def changeProduct (id : Int) (p : ProductPatch) : Statement (Option Product) :=
  passing p.parameters (updateLive .product id p.stored.apply)

def setProductImage (productId imageId : Int) : Statement Unit :=
  (update .product (fun _ r => r.id == productId) fun _ r =>
    { r with primaryImageId := some imageId }).map fun _ => ()

def archiveProductsOf (rootId : Int) : Statement Unit :=
  archiveAll .product fun _ r => r.rootId == rootId

/-! ## Links -/

def linkValues (productId : Int) (valueIds : List Int) : Statement Unit :=
  (insertAll .link fun now => valueIds.map fun valueId id =>
    { id, productId, valueId, createdOn := now, archivedOn := none }).map fun _ => ()

def archiveLinksOf (productId : Int) : Statement Unit :=
  archiveAll .link fun _ r => r.productId == productId

def archiveLinksOfRoot (rootId : Int) : Statement Unit :=
  archiveAll .link fun t r => t.isOfRoot r.productId rootId

end Store
end Shop
