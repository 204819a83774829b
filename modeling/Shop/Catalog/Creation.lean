import Shop.Catalog.Images
import Shop.Catalog.Plan
import Shop.Catalog.Request
import Shop.Catalog.View
import Shop.Variant.Build

/-!
# Creating a root

The plan by which a root comes into being: the root itself, its pictures, its options with their
values, one product for each choice of a value from each option, and at last the primary picture of
the root and of its first product.  Option sets with too many choices are refused before anything is
called.
-/

namespace Shop
namespace Creation

open Plan

def createImage (root : ProductRoot) (position : Nat) (image : ResolvedImage) :
    Plan ProductImage := do
  let locations ← perform (.keepImage root.skuPrefix position image.renditions)
  perform (.createImage
    { rootId := root.id
      thumbnailUrl := locations.thumbnail
      mainUrl := locations.main
      fullUrl := locations.full
      sourceUrl := image.sourceUrl.getD "" })

/-- Write the images of a root, counting positions from `position`. -/
def createImages (root : ProductRoot) (position : Nat) :
    List ResolvedImage → Plan (List ProductImage)
  | [] => return []
  | image :: images => do
    let row ← createImage root position image
    let rows ← createImages root (position + 1) images
    return row :: rows

def createValues (optionId : Int) : List String → Plan (List OptionValue)
  | [] => return []
  | value :: values => do
    let row ← perform (.createValue optionId value)
    let rows ← createValues optionId values
    return row :: rows

/-- Write the options of a root, each with its values. -/
def createOptions (rootId : Int) : List OptionInput → Plan (List OptionView)
  | [] => return []
  | input :: inputs => do
    let option ← perform (.createOption rootId input.name)
    let values ← createValues option.id input.values
    let views ← createOptions rootId inputs
    return ⟨option, values⟩ :: views

/-- Write products, each with its links to the values it was made from. -/
def persistVariants : List (NewProduct × List OptionValue) → Plan (List ProductView)
  | [] => return []
  | (product, values) :: variants => do
    let row ← perform (.createProduct product)
    perform (.linkValues row.id (values.map (·.id)))
    let views ← persistVariants variants
    return ⟨row, values⟩ :: views

/-- The primary picture: the first that asks to be, else the first. -/
def primaryImage (images : List ResolvedImage) (rows : List ProductImage) : Option Int :=
  let flagged := (images.zip rows).find? fun (image, _) => image.isPrimary
  (flagged.map fun (_, row) => row.id) <|> rows.head?.map (·.id)

/-- Give the root and its first product their primary picture. -/
def setPrimaryImage (view : RootView) : Option Int → Plan RootView
  | none => return view
  | some imageId => do
    perform (.setRootImage view.root.id imageId)
    let root := { view.root with primaryImageId := some imageId }
    match view.products with
    | [] => return { view with root }
    | first :: rest => do
      perform (.setProductImage first.product.id imageId)
      let product := { first.product with primaryImageId := some imageId }
      return { view with root, products := { first with product } :: rest }

/-- The products of a template, one for each choice of values. -/
def variants (template : NewProduct) (options : List OptionView) :
    Except Refusal (List (NewProduct × List OptionValue)) := do
  let axes := options.map fun view => (view.option.name, view.values)
  let built ← Variant.build OptionValue.value template.sku axes
  return built.map fun v => (template.stamped v.sku v.optionSummary, v.values)

/-- Create a root with its pictures.  Where the request does not say when the root is for sale, it
is so from `now` on. -/
def createRoot (request : RootRequest) (images : List ResolvedImage) (now : Instant) :
    Plan RootView := do
  let _ ← ensure (Variant.ensureLimit request.optionSizes)
  let availableOn := request.availableOn.getD now
  let root ← perform (.createRoot (request.newRoot availableOn))
  let rows ← createImages root 0 images
  let options ← createOptions root.id request.options
  let made ← ensure (variants (request.template root.id availableOn) options)
  let products ← persistVariants made
  setPrimaryImage ⟨root, options, rows, products⟩ (primaryImage images rows)

end Creation
end Shop
