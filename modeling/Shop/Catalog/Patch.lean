import Shop.Catalog.Request

/-!
# Changes of products

A change names some attributes of a product and their new values.  Attributes that it does not name
stay as they are.
-/

namespace Shop

structure ExtentPatch where
  weight : Option Float
  height : Option Float
  width : Option Float
  length : Option Float

structure ProductPatch where
  name : Option String
  subtitle : Option String
  description : Option String
  sku : Option String
  upc : Option String
  manufacturer : Option String
  brand : Option String
  quantity : Option Int
  quantityPerPackage : Option Int
  taxable : Option Bool
  price : Option Float
  onSale : Option Bool
  salePrice : Option Float
  cost : Option Float
  item : ExtentPatch
  package : ExtentPatch
  availableOn : Option Instant

def ExtentPatch.apply (p : ExtentPatch) (e : Extent) : Extent :=
  ⟨p.weight.getD e.weight, p.height.getD e.height, p.width.getD e.width, p.length.getD e.length⟩

namespace ProductPatch

open Json Json.Record

def record : Record ProductPatch :=
  (fun name subtitle description sku upc manufacturer brand quantity quantityPerPackage taxable
      price onSale salePrice cost a b c d e f g h availableOn =>
    { name, subtitle, description, sku, upc, manufacturer, brand, quantity, quantityPerPackage,
      taxable, price, onSale, salePrice, cost, item := ⟨a, b, c, d⟩, package := ⟨e, f, g, h⟩,
      availableOn }) <$>
    optional "name" Reader.text <*> optional "subtitle" Reader.text <*>
    optional "description" Reader.text <*> optional "sku" Reader.text <*>
    optional "upc" Reader.text <*> optional "manufacturer" Reader.text <*>
    optional "brand" Reader.text <*> optional "quantity" Reader.int32 <*>
    optional "quantity_per_package" Reader.int32 <*> optional "taxable" Reader.bool <*>
    optional "price" Reader.float <*> optional "on_sale" Reader.bool <*>
    optional "sale_price" Reader.float <*> optional "cost" Reader.float <*>
    optional "product_weight" Reader.float <*> optional "product_height" Reader.float <*>
    optional "product_width" Reader.float <*> optional "product_length" Reader.float <*>
    optional "package_weight" Reader.float <*> optional "package_height" Reader.float <*>
    optional "package_width" Reader.float <*> optional "package_length" Reader.float <*>
    optional "available_on" Reader.timestamp

def reader : Reader ProductPatch := record.reader "UpdateProduct"

/-- The attributes that have rules keep them. -/
def problems (p : ProductPatch) : Problems :=
  .node (Problems.checkSome "name" Rule.notBlank p.name ++
    Problems.checkSome "sku" Rule.sku p.sku ++
    Problems.checkSome "quantity_per_package" (Rule.atLeast 1) p.quantityPerPackage)

/-- The shared attributes after the change. -/
def applyListing (p : ProductPatch) (l : Listing) : Listing :=
  { name := p.name.getD l.name
    subtitle := p.subtitle.getD l.subtitle
    description := p.description.getD l.description
    manufacturer := p.manufacturer.getD l.manufacturer
    brand := p.brand.getD l.brand
    taxable := p.taxable.getD l.taxable
    cost := p.cost.getD l.cost
    dimensions := ⟨p.item.apply l.dimensions.item, p.package.apply l.dimensions.package⟩
    quantityPerPackage := p.quantityPerPackage.getD l.quantityPerPackage
    availableOn := p.availableOn.getD l.availableOn }

/-- The attributes of sale after the change. -/
def applyOffer (p : ProductPatch) (o : Offer) : Offer :=
  { upc := p.upc.getD o.upc
    quantity := p.quantity.getD o.quantity
    price := p.price.getD o.price
    onSale := p.onSale.getD o.onSale
    salePrice := p.salePrice.getD o.salePrice }

def apply (p : ProductPatch) (now : Instant) (row : Product) : Product :=
  { row with
    sku := p.sku.getD row.sku
    listing := p.applyListing row.listing
    offer := p.applyOffer row.offer
    stamps := row.stamps.updated now }

end ProductPatch
end Shop
