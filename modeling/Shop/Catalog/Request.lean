import Shop.Catalog.Row
import Shop.Json.Record
import Shop.Rule.Rules

/-!
# Requests to the catalogue

The bodies that create roots, options and values: how they are read, which rules they keep, and
what rows they ask for.
-/

namespace Shop

/-- A picture of a request: where its data comes from, and the data. -/
structure ImageInput where
  kind : String
  data : String
  isPrimary : Bool
  deriving Repr, DecidableEq

/-- An option of a request, with its values in order. -/
structure OptionInput where
  name : String
  values : List String
  deriving Repr, DecidableEq

/-- The request for a root, its options and its pictures. -/
structure RootRequest where
  name : String
  subtitle : String
  description : String
  /-- The prefix of the SKUs of the root's products. -/
  sku : String
  manufacturer : String
  brand : String
  taxable : Bool
  cost : Float
  dimensions : Dimensions
  quantityPerPackage : Int
  offer : Offer
  availableOn : Option Instant
  options : List OptionInput
  images : List ImageInput

structure NameInput where
  name : String
  deriving Repr, DecidableEq

structure ValueInput where
  value : String
  deriving Repr, DecidableEq

open Json Json.Record

/-- A member of plain text, empty by default. -/
def textMember (name : String) : Record String := defaulted name Reader.text ""

/-- A member that is true or false, false by default. -/
def flagMember (name : String) : Record Bool := defaulted name Reader.bool false

/-- A number, zero by default. -/
def amountMember (name : String) : Record Float := defaulted name Reader.float 0.0

namespace ImageInput

def record : Record ImageInput :=
  mk <$> required "type" Reader.text <*> required "data" Reader.text <*> flagMember "is_primary"

def reader : Reader ImageInput := record.reader "ProductImageInput"

def problems (i : ImageInput) : Problems :=
  .node (Problems.check "data" (Rule.notBlank i.data))

end ImageInput

namespace OptionInput

def record : Record OptionInput :=
  mk <$> required "name" Reader.text <*> defaulted "values" (Reader.list Reader.text) []

def reader : Reader OptionInput := record.reader "CreateProductOption"

/-- An option needs a name, and values that can be told apart. -/
def problems (o : OptionInput) : Problems :=
  .node (Problems.check "name" (Rule.notBlank o.name) ++
    Problems.check "values" (Rule.optionValues o.values))

end OptionInput

namespace NameInput

def reader : Reader NameInput :=
  Record.reader "UpdateProductOption" (mk <$> required "name" Reader.text)

/-- A name must not be blank. -/
def problems (i : NameInput) : Problems :=
  .node (Problems.check "name" (Rule.notBlank i.name))

end NameInput

namespace ValueInput

def reader : Reader ValueInput :=
  Record.reader "OptionValueInput" (mk <$> required "value" Reader.text)

/-- A value must not be blank. -/
def problems (i : ValueInput) : Problems :=
  .node (Problems.check "value" (Rule.notBlank i.value))

end ValueInput

/-- The measurements of an item and its package, each zero by default. -/
def Dimensions.record : Record Dimensions :=
  (fun a b c d e f g h => ⟨⟨a, b, c, d⟩, ⟨e, f, g, h⟩⟩) <$>
    amountMember "product_weight" <*> amountMember "product_height" <*>
    amountMember "product_width" <*> amountMember "product_length" <*>
    amountMember "package_weight" <*> amountMember "package_height" <*>
    amountMember "package_width" <*> amountMember "package_length"

namespace RootRequest

/-- The members of the request, the measurements aside. -/
def record : Record (Dimensions → RootRequest) :=
  (fun name subtitle description sku upc manufacturer brand quantity quantityPerPackage taxable
      price onSale salePrice cost availableOn options images dimensions =>
    { name, subtitle, description, sku, manufacturer, brand, taxable, cost, dimensions,
      quantityPerPackage, availableOn, options, images,
      offer := { upc, quantity, price, onSale, salePrice } }) <$>
    required "name" Reader.text <*> textMember "subtitle" <*> textMember "description" <*>
    required "sku" Reader.text <*> textMember "upc" <*> textMember "manufacturer" <*>
    textMember "brand" <*> defaulted "quantity" Reader.int32 0 <*>
    defaulted "quantity_per_package" Reader.int32 0 <*> flagMember "taxable" <*>
    amountMember "price" <*> flagMember "on_sale" <*> amountMember "sale_price" <*>
    amountMember "cost" <*> optional "available_on" Reader.timestamp <*>
    defaulted "options" (Reader.list OptionInput.reader) [] <*>
    defaulted "images" (Reader.list ImageInput.reader) []

/-- Read the request; the measurements stand among its members. -/
def reader : Reader RootRequest :=
  readerWithInner "CreateProduct" record Dimensions.record

/-- The rules for a root, its options and its pictures. -/
def problems (r : RootRequest) : Problems :=
  .node (Problems.check "name" (Rule.notBlank r.name) ++ Problems.check "sku" (Rule.sku r.sku) ++
    Problems.checkItems "options" OptionInput.problems r.options ++
    Problems.checkItems "images" ImageInput.problems r.images)

def packageUnits (r : RootRequest) : Int := max r.quantityPerPackage 1

/-- The request with its defaults: at least one unit a package, and for sale from now on. -/
def withDefaults (now : Instant) (r : RootRequest) : RootRequest :=
  { r with
    quantityPerPackage := r.packageUnits
    availableOn := some (r.availableOn.getD now) }

/-- The attributes that the root and all its products get. -/
def listing (r : RootRequest) (availableOn : Instant) : Listing :=
  { name := r.name
    subtitle := r.subtitle
    description := r.description
    manufacturer := r.manufacturer
    brand := r.brand
    taxable := r.taxable
    cost := r.cost
    dimensions := r.dimensions
    quantityPerPackage := r.packageUnits
    availableOn }

def newRoot (r : RootRequest) (availableOn : Instant) : NewRoot :=
  ⟨r.sku, r.listing availableOn⟩

/-- The product from which every variant of the root is made. -/
def template (r : RootRequest) (rootId : Int) (availableOn : Instant) : NewProduct :=
  { rootId, sku := r.sku, optionSummary := "", listing := r.listing availableOn, offer := r.offer }

def optionSizes (r : RootRequest) : List Nat := r.options.map (·.values.length)

end RootRequest
end Shop
