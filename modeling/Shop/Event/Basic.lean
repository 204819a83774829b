import Shop.Catalog.Listing
import Shop.Json.Record

/-!
# Events

A change of the catalogue that webhooks can hear of.  Its payload is the thing that changed, as the
client that changed it was shown it, with members in the order of their names.
-/

namespace Shop

structure Event where
  eventType : String
  payload : Json
  timestamp : Instant

namespace Event

def of (eventType : String) (shown : Json) (timestamp : Instant) : Event :=
  ⟨eventType, shown.sorted, timestamp⟩

def toJson (e : Event) : Json :=
  .object [("event_type", .text e.eventType), ("payload", e.payload),
    ("timestamp", e.timestamp.toJson)]

open Json Json.Record

def payloadReader : Reader Json := fun node =>
  (any (depthLimit - 1) node).map Json.sorted

def reader : Reader Event :=
  Record.reader "StoreEvent"
    (mk <$> required "event_type" Reader.text <*> required "payload" payloadReader <*>
      required "timestamp" Reader.timestamp)

end Event
end Shop
