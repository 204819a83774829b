import Shop.Event.Basic
import Shop.Event.Bus
import Shop.Store.Fault
import Shop.Webhook

/-!
# Dispatching events

The dispatcher reads events from the bus, looks up the webhooks that ask for their type, delivers
the payload to each of them and records each attempt.  Nothing that fails stops it: an event whose
webhooks cannot be looked up is passed over, a delivery that fails is recorded as such, and a record
that cannot be written is passed over too.
-/

namespace Shop

/-- Why no answer came to a delivery. -/
inductive DeliveryFault where
  | request
  /-- The payload could not be written. -/
  | encoding
  deriving Repr, DecidableEq

def isDelivered (status : Nat) : Bool := 200 ≤ status && status ≤ 300

def noAnswerStatus : Nat := 0

/-- What the dispatcher works with: the store of webhooks and the way to their addresses. -/
structure Courier (m : Type → Type) where
  webhooksFor : String → m (Except StoreFault (List Webhook))
  deliver : Webhook → Json → m (Except DeliveryFault Nat)
  record : Int → Nat → Bool → m (Except StoreFault Unit)

/-- A dispatcher: where it reads on, how many events it lost, and how many deliveries it tried. -/
structure Dispatcher where
  cursor : Nat
  dropped : Nat
  attempts : Nat
  deriving Repr, DecidableEq

namespace Dispatcher

def start (cursor : Nat) : Dispatcher := ⟨cursor, 0, 0⟩

variable {m : Type → Type} [Monad m]

def outcome : Except DeliveryFault Nat → Nat × Bool
  | .ok status => (status, isDelivered status)
  | .error _ => (noAnswerStatus, false)

def execute (courier : Courier m) (payload : Json) (webhook : Webhook) : m Unit := do
  let (status, succeeded) := outcome (← courier.deliver webhook payload)
  let _ ← courier.record webhook.id status succeeded

def executeAll (courier : Courier m) (payload : Json) : List Webhook → m Unit
  | [] => return
  | webhook :: webhooks => do
    execute courier payload webhook
    executeAll courier payload webhooks

def dispatch (courier : Courier m) (d : Dispatcher) (e : Event) : m Dispatcher := do
  match ← courier.webhooksFor e.eventType with
  | .error _ => return d
  | .ok webhooks =>
    executeAll courier e.payload webhooks
    return { d with attempts := d.attempts + webhooks.length }

/-- Deliver events one after the other. -/
def dispatchAll (courier : Courier m) (d : Dispatcher) : List Event → m Dispatcher
  | [] => return d
  | e :: events => do
    let d ← dispatch courier d e
    dispatchAll courier d events

/-- Read until the bus has nothing more to give. -/
def drainFrom (courier : Courier m) (bus : Bus Event) (cursor : Nat) (d : Dispatcher) :
    m Dispatcher :=
  match _h : bus.receive cursor with
  | (.event e, next) => do
    let d ← dispatch courier d e
    drainFrom courier bus next d
  | (.missed count, next) => drainFrom courier bus next { d with dropped := d.dropped + count }
  | (.empty, next) | (.closed, next) => return { d with cursor := next }
termination_by bus.published - cursor
decreasing_by
  · have := Bus.receive_event _h
    omega
  · have := Bus.receive_missed _h
    omega

/-- Read on until the bus has nothing more to give. -/
def drain (courier : Courier m) (bus : Bus Event) (d : Dispatcher) : m Dispatcher :=
  drainFrom courier bus d.cursor d

end Dispatcher
end Shop
