import Shop.Service.Discounts
import Shop.Service.Options
import Shop.Service.Products
import Shop.Service.Users
import Shop.Service.Webhooks

/-!
# Commands

All that a client can ask of the service, once its request is understood.  Bodies in commands keep
the rules that need no store.
-/

namespace Shop

abbrev Accepted {α : Type} (problems : α → Problems) : Type :=
  { a : α // (problems a).isEmpty = true }

inductive Command where
  | checkHealth
  | listRoots (page : Page)
  | createRoot (request : Accepted RootRequest.problems)
  | showRoot (id : Int)
  | archiveRoot (id : Int)
  | listProducts (page : Page)
  | showProduct (sku : String)
  | probeProduct (sku : String)
  | changeProduct (sku : String) (patch : Accepted ProductPatch.problems)
  | archiveProduct (sku : String)
  | listOptions (rootId : Int) (page : Page)
  | addOption (rootId : Int) (input : Accepted OptionInput.problems)
  | renameOption (id : Int) (input : Accepted NameInput.problems)
  | archiveOption (id : Int)
  | addValue (optionId : Int) (input : Accepted ValueInput.problems)
  | changeValue (id : Int) (input : Accepted ValueInput.problems)
  | archiveValue (id : Int)
  | listDiscounts (page : Page)
  | createDiscount (request : Accepted DiscountRequest.problems)
  | showDiscount (id : Int)
  | changeDiscount (id : Int) (patch : Accepted DiscountPatch.problems)
  | archiveDiscount (id : Int)
  | listWebhooks (page : Page)
  | listWebhooksFor (eventType : String) (page : Page)
  | createWebhook (request : Accepted WebhookRequest.problems)
  | changeWebhook (id : Int) (patch : Accepted WebhookPatch.problems)
  | archiveWebhook (id : Int)
  | listExecutions (id : Int) (page : Page)
  | createUser (request : Accepted UserRequest.problems)
  | showUser (id : Int)
  | changeUser (id : Int) (change : Accepted UserChange.problems)
  | archiveUser (id : Int)

namespace Service

def version : String := "0.1.0"

/-- How the service is: it lives, and the store can be reached or not. -/
def health (reachable : Bool) : Json :=
  .object [("status", .text (if reachable then "ok" else "degraded")),
    ("version", .text version), ("db_healthy", .bool reachable)]

def checkHealth : Action Reply :=
  tryCatch (do
    Action.statement (.select fun _ => ())
    return .ok (health true)) fun _ => return .ok (health false)

end Service

def Command.action : Command → Action Reply
  | .checkHealth => Service.checkHealth
  | .listRoots page => Service.listRoots page
  | .createRoot request => Service.createRoot request.val
  | .showRoot id => Service.showRoot id
  | .archiveRoot id => Service.archiveRoot id
  | .listProducts page => Service.listProducts page
  | .showProduct sku => Service.showProduct sku
  | .probeProduct sku => Service.probeProduct sku
  | .changeProduct sku patch => Service.changeProduct sku patch.val
  | .archiveProduct sku => Service.archiveProduct sku
  | .listOptions rootId page => Service.listOptions rootId page
  | .addOption rootId input => Service.addOption rootId input.val
  | .renameOption id input => Service.renameOption id input.val.name
  | .archiveOption id => Service.archiveOption id
  | .addValue optionId input => Service.addValue optionId input.val.value
  | .changeValue id input => Service.changeValue id input.val.value
  | .archiveValue id => Service.archiveValue id
  | .listDiscounts page => Service.listDiscounts page
  | .createDiscount request => Service.createDiscount request.val
  | .showDiscount id => Service.showDiscount id
  | .changeDiscount id patch => Service.changeDiscount id patch.val
  | .archiveDiscount id => Service.archiveDiscount id
  | .listWebhooks page => Service.listWebhooks page
  | .listWebhooksFor eventType page => Service.listWebhooksFor eventType page
  | .createWebhook request => Service.createWebhook request.val
  | .changeWebhook id patch => Service.changeWebhook id patch.val
  | .archiveWebhook id => Service.archiveWebhook id
  | .listExecutions id page => Service.listExecutions id page
  | .createUser request => Service.createUser request.val
  | .showUser id => Service.showUser id
  | .changeUser id change => Service.changeUser id change.val
  | .archiveUser id => Service.archiveUser id

end Shop
