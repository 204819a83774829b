import Shop.Catalog.Request

/-!
# Webhooks

A webhook asks for the events of one type to be delivered to an address.  Addresses are kept
without blanks around them and content types in lower case, whatever form the request used.  Each
attempt to deliver leaves an execution.
-/

namespace Shop

structure Webhook where
  id : Int
  url : String
  eventType : String
  contentType : String
  stamps : Stamps
  deriving Repr, DecidableEq

structure Execution where
  id : Int
  webhookId : Int
  statusCode : Int
  succeeded : Bool
  executedOn : Instant
  deriving Repr, DecidableEq

structure WebhookRequest where
  url : String
  eventType : String
  contentType : String
  deriving Repr, DecidableEq

structure WebhookPatch where
  url : Option String
  eventType : Option String
  contentType : Option String
  deriving Repr, DecidableEq

def Webhook.toJson (w : Webhook) : Json :=
  .object ([("id", .int w.id), ("url", .text w.url), ("event_type", .text w.eventType),
    ("content_type", .text w.contentType)] ++ w.stamps.members)

def Execution.toJson (e : Execution) : Json :=
  .object [("id", .int e.id), ("webhook_id", .int e.webhookId),
    ("status_code", .int e.statusCode), ("succeeded", .bool e.succeeded),
    ("executed_on", e.executedOn.toJson)]

open Json Json.Record

namespace WebhookRequest

def record : Record WebhookRequest :=
  mk <$> required "url" Reader.text <*> required "event_type" Reader.text <*>
    defaulted "content_type" Reader.text Rule.jsonContentType

def reader : Reader WebhookRequest := record.reader "CreateWebhook"

def problems (r : WebhookRequest) : Problems :=
  .node (Problems.check "url" (Rule.webhookUrl r.url) ++
    Problems.check "event_type" (Rule.eventType r.eventType) ++
    Problems.check "content_type" (Rule.contentType r.contentType))

def row (r : WebhookRequest) (now : Instant) (id : Int) : Webhook :=
  { id, url := Text.trim r.url, eventType := r.eventType,
    contentType := Text.asciiLowercase r.contentType, stamps := .new now }

end WebhookRequest

namespace WebhookPatch

def record : Record WebhookPatch :=
  mk <$> optional "url" Reader.text <*> optional "event_type" Reader.text <*>
    optional "content_type" Reader.text

def reader : Reader WebhookPatch := record.reader "UpdateWebhook"

/-- The rules for the attributes that change. -/
def problems (p : WebhookPatch) : Problems :=
  .node (Problems.checkSome "url" Rule.webhookUrl p.url ++
    Problems.checkSome "event_type" Rule.eventType p.eventType ++
    Problems.checkSome "content_type" Rule.contentType p.contentType)

def apply (p : WebhookPatch) (now : Instant) (w : Webhook) : Webhook :=
  { w with
    url := (p.url.map Text.trim).getD w.url
    eventType := p.eventType.getD w.eventType
    contentType := (p.contentType.map Text.asciiLowercase).getD w.contentType
    stamps := w.stamps.updated now }

end WebhookPatch
end Shop
