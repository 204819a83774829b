import Shop.Store.Statement

/-!
# Statements on discounts, webhooks and users

A discount that does not say when it starts does so at the time of the store.  The executions of a
webhook are listed from the newest to the oldest.
-/

namespace Shop

def DiscountRequest.parameters (r : DiscountRequest) : List Parameter :=
  Parameter.texts [r.name, r.discountType, r.code] ++ Parameter.timesOf [r.startsOn, r.expiresOn]

/-- What a change of a discount passes to the store. -/
def DiscountPatch.parameters (p : DiscountPatch) : List Parameter :=
  Parameter.textsOf [p.name, p.discountType, p.code] ++ Parameter.timesOf [p.startsOn, p.expiresOn]

def DiscountPatch.stored (p : DiscountPatch) : DiscountPatch :=
  { p with startsOn := p.startsOn.map (·.stored), expiresOn := p.expiresOn.map (·.stored) }

def DiscountRequest.row (r : DiscountRequest) (now : Instant) (id : Int) : Discount :=
  { id, name := r.name, discountType := r.discountType, amount := r.amount
    startsOn := (r.startsOn.map (·.stored)).getD now
    expiresOn := r.expiresOn.map (·.stored)
    requiresCode := r.requiresCode, code := r.code, limitedUse := r.limitedUse
    numberOfUses := r.numberOfUses, loginRequired := r.loginRequired, stamps := .new now }

namespace Store

open Statement

/-! ## Discounts -/

def createDiscount (r : DiscountRequest) : Statement Discount :=
  passing r.parameters (insert .discount r.row)

def changeDiscount (id : Int) (p : DiscountPatch) : Statement (Option Discount) :=
  passing p.parameters (updateLive .discount id p.stored.apply)

/-! ## Webhooks -/

def createWebhook (r : WebhookRequest) : Statement Webhook :=
  passing (Parameter.texts [r.url, r.eventType, r.contentType]) (insert .webhook r.row)

def changeWebhook (id : Int) (p : WebhookPatch) : Statement (Option Webhook) :=
  passing (Parameter.textsOf [p.url, p.eventType, p.contentType]) (updateLive .webhook id p.apply)

def webhookPage (eventType : String) (p : Page) : Statement (List Webhook) :=
  passing [.text eventType] (page .webhook p (·.eventType == eventType))

def webhookCount (eventType : String) : Statement Nat :=
  passing [.text eventType] (count .webhook (·.eventType == eventType))

def webhooksFor (eventType : String) : Statement (List Webhook) :=
  passing [.text eventType]
    (select fun t => (t.live .webhook).filter (·.eventType == eventType))

def recordExecution (webhookId statusCode : Int) (succeeded : Bool) : Statement Execution :=
  insert .execution fun now id => { id, webhookId, statusCode, succeeded, executedOn := now }

/-- Whether an execution is listed before another: the newer first, then the higher number. -/
def newerFirst (e f : Execution) : Bool :=
  f.executedOn.before e.executedOn || (e.executedOn == f.executedOn && decide (f.id ≤ e.id))

/-- The executions of a webhook, the newest first. -/
def executionsOf (t : Tables) (webhookId : Int) : List Execution :=
  (t.executions.filter (·.webhookId == webhookId)).mergeSort newerFirst

def executionPage (webhookId : Int) (p : Page) : Statement (List Execution) :=
  select fun t => p.slice (executionsOf t webhookId)

def executionCount (webhookId : Int) : Statement Nat :=
  select fun t => (executionsOf t webhookId).length

/-! ## Users -/

def createUser (n : NewUser) : Statement User :=
  passing (Parameter.texts [n.firstName, n.lastName, n.username, n.email, n.passwordHash])
    (insert .user n.row)

/-- Whether a live user other than one has a name. -/
def usernameTaken (username : String) (except : Option Int) : Statement Bool :=
  passing [.text username]
    (any .user fun u => u.username == username && except != some u.id)

def changeUser (id : Int) (p : UserPatch) : Statement (Option User) :=
  passing (Parameter.textsOf [p.firstName, p.lastName, p.username, p.email, p.passwordHash])
    (updateLive .user id p.apply)

end Store
end Shop
