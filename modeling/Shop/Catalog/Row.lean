import Shop.Catalog.Listing

/-!
# Catalogue rows

The rows of the catalogue: roots, their images and options, the values of options, the products and
the links between a product and the values it was made from.  Nothing is ever removed: a row that is
archived keeps its place and is live no more.
-/

namespace Shop

/-- When a row was created, last changed, and archived. -/
structure Stamps where
  createdOn : Instant
  updatedOn : Option Instant
  archivedOn : Option Instant
  deriving Repr, DecidableEq

namespace Stamps

def new (now : Instant) : Stamps := ⟨now, none, none⟩

def live (s : Stamps) : Bool := s.archivedOn.isNone

def updated (now : Instant) (s : Stamps) : Stamps := { s with updatedOn := some now }

def archived (now : Instant) (s : Stamps) : Stamps := { s with archivedOn := some now }

def members (s : Stamps) : List (String × Json) :=
  [("created_on", s.createdOn.toJson), ("updated_on", .ofOption Instant.toJson s.updatedOn),
    ("archived_on", .ofOption Instant.toJson s.archivedOn)]

end Stamps

structure ProductRoot where
  id : Int
  skuPrefix : String
  listing : Listing
  primaryImageId : Option Int
  stamps : Stamps

/-- A picture of a root, by the addresses of its renditions. -/
structure ProductImage where
  id : Int
  rootId : Int
  thumbnailUrl : String
  mainUrl : String
  fullUrl : String
  /-- Where the picture was fetched; empty for one that came with its request. -/
  sourceUrl : String
  stamps : Stamps

/-- An option of a root, such as its colour. -/
structure ProductOption where
  id : Int
  rootId : Int
  name : String
  stamps : Stamps

structure OptionValue where
  id : Int
  optionId : Int
  value : String
  stamps : Stamps
  deriving Repr, DecidableEq

structure Product where
  id : Int
  rootId : Int
  primaryImageId : Option Int
  sku : String
  optionSummary : String
  listing : Listing
  offer : Offer
  stamps : Stamps

/-- A link between a product and an option value it was made from. -/
structure VariantLink where
  id : Int
  productId : Int
  valueId : Int
  createdOn : Instant
  archivedOn : Option Instant
  deriving Repr, DecidableEq

structure NewProduct where
  rootId : Int
  sku : String
  optionSummary : String
  listing : Listing
  offer : Offer

/-- The product of a variant: everything but SKU and summary comes from the template. -/
def NewProduct.stamped (template : NewProduct) (sku optionSummary : String) : NewProduct :=
  { template with sku, optionSummary }

structure NewRoot where
  skuPrefix : String
  listing : Listing

/-- An image about to be written, its renditions already stored. -/
structure NewImage where
  rootId : Int
  thumbnailUrl : String
  mainUrl : String
  fullUrl : String
  sourceUrl : String
  deriving Repr, DecidableEq

def NewRoot.row (n : NewRoot) (now : Instant) (id : Int) : ProductRoot :=
  { id, skuPrefix := n.skuPrefix, listing := n.listing, primaryImageId := none
    stamps := .new now }

def NewImage.row (n : NewImage) (now : Instant) (id : Int) : ProductImage :=
  { id, rootId := n.rootId, thumbnailUrl := n.thumbnailUrl, mainUrl := n.mainUrl
    fullUrl := n.fullUrl, sourceUrl := n.sourceUrl, stamps := .new now }

def ProductOption.new (rootId : Int) (name : String) (now : Instant) (id : Int) : ProductOption :=
  { id, rootId, name, stamps := .new now }

def OptionValue.new (optionId : Int) (value : String) (now : Instant) (id : Int) : OptionValue :=
  { id, optionId, value, stamps := .new now }

def NewProduct.row (n : NewProduct) (now : Instant) (id : Int) : Product :=
  { id, rootId := n.rootId, primaryImageId := none, sku := n.sku
    optionSummary := n.optionSummary, listing := n.listing, offer := n.offer
    stamps := .new now }

/-! ## Rows as JSON -/

def OptionValue.toJson (v : OptionValue) : Json :=
  .object ([("id", .int v.id), ("product_option_id", .int v.optionId),
    ("value", .text v.value)] ++ v.stamps.members)

def ProductImage.toJson (i : ProductImage) : Json :=
  .object ([("id", .int i.id), ("product_root_id", .int i.rootId),
    ("thumbnail_url", .text i.thumbnailUrl), ("main_url", .text i.mainUrl),
    ("original_url", .text i.fullUrl), ("source_url", .text i.sourceUrl)] ++
    i.stamps.members)

def ProductRoot.members (r : ProductRoot) : List (String × Json) :=
  [("id", .int r.id), ("sku_prefix", .text r.skuPrefix)] ++ r.listing.members ++
    [("primary_image_id", .ofOption .int r.primaryImageId)] ++ r.stamps.members

def ProductRoot.toJson (r : ProductRoot) : Json := .object r.members

end Shop
