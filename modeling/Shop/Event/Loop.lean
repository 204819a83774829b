import Shop.Event.Bus

/-!
# The loop of the dispatcher

The dispatcher reads in a loop of its own while others publish.  It takes an event, hands it on, and
turns to the bus again when that is done.  What the others do meanwhile makes no difference to it,
so it may as well be done before the next turn.

The loop ends when the bus is closed and nothing is left on it.  When the dispatcher is cancelled,
it first drains the bus: it reads on as long as there is something to read, and does not wait for
more.
-/

namespace Shop

inductive Stage where
  | listening
  | draining
  | stopped
  deriving Repr, DecidableEq

/-- What becomes of a reader that finds nothing to read. -/
def Stage.idle : Stage → Stage
  | .listening => .listening
  | .draining | .stopped => .stopped

/-- A bus and the loop that reads it: where it reads on, how many events it missed, and the events
it took to hand them on, each with its position among all that were published. -/
structure Loop (α : Type) where
  bus : Bus α
  cancelled : Bool
  stage : Stage
  cursor : Nat
  dropped : Nat
  taken : List (Nat × α)

/-- What can happen next: others publish, close the bus or cancel the dispatcher, or it turns to the
bus. -/
inductive Move (α : Type) where
  | publish (a : α)
  | close
  | cancel
  | turn

namespace Loop

/-- A loop that hears of what is published on a bus from now on. -/
def start (bus : Bus α) : Loop α := ⟨bus, false, .listening, bus.published, 0, []⟩

/-- The number of events published that it has not come to. -/
def unread (l : Loop α) : Nat := l.bus.published - l.cursor

/-- Read the bus once. -/
def read (l : Loop α) : Loop α :=
  match l.bus.receive l.cursor with
  | (.event a, next) => { l with cursor := next, taken := l.taken ++ [(l.cursor, a)] }
  | (.missed count, next) => { l with cursor := next, dropped := l.dropped + count }
  | (.empty, _) => { l with stage := l.stage.idle }
  | (.closed, _) => { l with stage := .stopped }

/-- A cancelled dispatcher drains the bus before it looks for more. -/
def turn (l : Loop α) : Loop α :=
  match l.stage with
  | .listening => if l.cancelled then { l with stage := .draining } else l.read
  | .draining => l.read
  | .stopped => l

def step (l : Loop α) : Move α → Loop α
  | .publish a => { l with bus := l.bus.publish a }
  | .close => { l with bus := l.bus.close }
  | .cancel => { l with cancelled := true }
  | .turn => l.turn

def run (l : Loop α) (moves : List (Move α)) : Loop α := moves.foldl step l

end Loop
end Shop
