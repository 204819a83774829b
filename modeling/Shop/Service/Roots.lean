import Shop.Catalog.Creation
import Shop.Service.Action
import Shop.Store.Catalog

/-!
# Requests about roots

Creating a root with all it owns, showing and listing roots, and archiving a root together with
everything it owns.
-/

namespace Shop
namespace Service

open Shop.Action

def noRoot (id : Int) : Refusal := .missing "product root" id

def showProducts (products : List Product) : Action (List ProductView) :=
  if products.isEmpty then return [] else statement (Store.withOptions products)

def showOptions (options : List ProductOption) : Action (List OptionView) :=
  if options.isEmpty then return [] else statement (Store.withValues options)

def answer : Plan.Answerer Work
  | .createRoot root => statement (Store.createRoot root)
  | .keepImage sku position renditions => keepPicture sku position renditions
  | .createImage image => statement (Store.createImage image)
  | .createOption rootId name => statement (Store.createOption rootId name)
  | .createValue optionId value => statement (Store.createValue optionId value)
  | .createProduct product => statement (Store.createProduct product)
  | .linkValues productId valueIds =>
    if valueIds.isEmpty then return () else statement (Store.linkValues productId valueIds)
  | .setRootImage rootId imageId => statement (Store.setRootImage rootId imageId)
  | .setProductImage productId imageId => statement (Store.setProductImage productId imageId)

/-- Create a root.  What can be refused without writing is refused first, and pictures are made
ready before the transaction begins. -/
def createRoot (request : RootRequest) : Action Reply := do
  ensure (Rule.uniqueNames (request.options.map (·.name)))
  let _ ← ensure (Variant.ensureLimit request.optionSizes)
  let clock := (← context).clock
  let request := request.withDefaults clock
  ensureFree (← statement (Store.prefixTaken request.sku))
    ("product with sku '" ++ request.sku ++ "' already exists")
  let images ← ImageInput.resolveAll downloader request.images
  let view ← transaction ((Creation.createRoot request images clock).run answer)
  publish Rule.productCreated view.toJson
  return .created view.toJson

def listRoots (page : Page) : Action Reply := do
  let roots ← statement (.page .root page fun _ => true)
  let count ← statement (.count .root fun _ => true)
  let products ←
    if roots.isEmpty then pure [] else statement (Store.productsOf (roots.map (·.id)))
  let views ← showProducts products
  let summaries := (Groups.ofRows (·.product.rootId) views).handOut (·.id) RootSummary.mk roots
  return .ok (page.envelope count (summaries.map (·.toJson)))

def showRoot (id : Int) : Action Reply := do
  let root ← require (noRoot id) (← statement (.find .root id))
  let options ← showOptions (← statement (Store.optionsOf root.id))
  let images ← statement (Store.imagesOf root.id)
  let products ← showProducts (← statement (Store.productsOf [root.id]))
  return .ok (RootView.toJson ⟨root, options, images, products⟩)

def archiveRoot (id : Int) : Action Reply := do
  let root ← transaction (do
    statement (Store.archiveLinksOfRoot id)
    statement (Store.archiveValuesOfRoot id)
    statement (Store.archiveOptionsOf id)
    statement (Store.archiveProductsOf id)
    statement (Store.archiveImagesOf id)
    require (noRoot id) (← statement (.archive .root id)))
  return .ok root.toJson

end Service
end Shop
