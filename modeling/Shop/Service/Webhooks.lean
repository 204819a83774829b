import Shop.Event.Dispatch
import Shop.Service.Action
import Shop.Store.Commerce

/-!
# Requests about webhooks

Registering webhooks, and reading what became of the deliveries to them.  The dispatcher works with
the same store.
-/

namespace Shop
namespace Service

open Shop.Action

def noWebhook (id : Int) : Refusal := .missing "webhook" id

def listWebhooks (page : Page) : Action Reply := do
  let webhooks ← statement (.page .webhook page fun _ => true)
  let count ← statement (.count .webhook fun _ => true)
  return .ok (page.envelope count (webhooks.map (·.toJson)))

def listWebhooksFor (eventType : String) (page : Page) : Action Reply := do
  let webhooks ← statement (Store.webhookPage eventType page)
  let count ← statement (Store.webhookCount eventType)
  return .ok (page.envelope count (webhooks.map (·.toJson)))

def createWebhook (request : WebhookRequest) : Action Reply := do
  let webhook ← statement (Store.createWebhook request)
  return .created webhook.toJson

def changeWebhook (id : Int) (patch : WebhookPatch) : Action Reply := do
  let webhook ← require (noWebhook id) (← statement (Store.changeWebhook id patch))
  return .ok webhook.toJson

def archiveWebhook (id : Int) : Action Reply := do
  let webhook ← require (noWebhook id) (← statement (.archive .webhook id))
  return .ok webhook.toJson

def listExecutions (id : Int) (page : Page) : Action Reply := do
  let _ ← require (noWebhook id) (← statement (.find .webhook id))
  let executions ← statement (Store.executionPage id page)
  let count ← statement (Store.executionCount id)
  return .ok (page.envelope count (executions.map (·.toJson)))

/-! ## Delivering -/

/-- Run a statement for the dispatcher, which passes over faults. -/
def attempt (s : Statement α) : Work (Except StoreFault α) := do
  match ← (statement s).run with
  | .ok a => return .ok a
  | .error (.store fault) => return .error fault
  | .error failure => return .error (.protocol failure.text)

def courier [Monad m] [MonadLiftT Work m]
    (deliver : Webhook → Json → m (Except DeliveryFault Nat)) : Courier m where
  webhooksFor eventType := liftM (attempt (Store.webhooksFor eventType))
  deliver := deliver
  record webhookId status succeeded := do
    return (← liftM (attempt (Store.recordExecution webhookId status succeeded))).map fun _ => ()

end Service
end Shop
