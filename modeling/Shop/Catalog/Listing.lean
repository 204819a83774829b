import Shop.Json.Value
import Shop.Time.Rfc3339

/-!
# Listings

The attributes that a product root and its products share, and those that only a product has.
-/

namespace Shop

structure Extent where
  weight : Float
  height : Float
  width : Float
  length : Float

structure Dimensions where
  item : Extent
  package : Extent

/-- What a root says about all of its products. -/
structure Listing where
  name : String
  subtitle : String
  description : String
  manufacturer : String
  brand : String
  taxable : Bool
  cost : Float
  dimensions : Dimensions
  quantityPerPackage : Int
  availableOn : Instant

structure Offer where
  upc : String
  quantity : Int
  price : Float
  onSale : Bool
  salePrice : Float

def Instant.toJson (t : Instant) : Json := .text t.text

/-- The members of an extent; `kind` begins their names. -/
def Extent.members (kind : String) (e : Extent) : List (String × Json) :=
  [(kind ++ "_weight", .float e.weight), (kind ++ "_height", .float e.height),
    (kind ++ "_width", .float e.width), (kind ++ "_length", .float e.length)]

def Dimensions.members (d : Dimensions) : List (String × Json) :=
  d.item.members "product" ++ d.package.members "package"

def Listing.members (l : Listing) : List (String × Json) :=
  [("name", .text l.name), ("subtitle", .text l.subtitle), ("description", .text l.description),
    ("manufacturer", .text l.manufacturer), ("brand", .text l.brand),
    ("taxable", .bool l.taxable), ("cost", .float l.cost)] ++ l.dimensions.members ++
  [("quantity_per_package", .int l.quantityPerPackage),
    ("available_on", l.availableOn.toJson)]

def Offer.members (o : Offer) : List (String × Json) :=
  [("upc", .text o.upc), ("quantity", .int o.quantity), ("price", .float o.price),
    ("on_sale", .bool o.onSale), ("sale_price", .float o.salePrice)]

end Shop
