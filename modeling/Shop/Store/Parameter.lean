import Shop.Store.Fault
import Shop.Time.Instant

/-!
# Parameters

What a statement passes to the store.  Texts may not hold the character zero, and times must lie in
the calendar of the store, which counts microseconds: finer parts are cut off toward the year 2000.
A leap second becomes the second after it.
-/

namespace Shop
namespace Instant

def epoch : Instant := .ofDate ⟨2000, 1, 1⟩

def firstStorable : Instant := .ofDate ⟨-4713, 11, 24⟩

def storableEnd : Instant := .ofDate ⟨294277, 1, 1⟩

def isStorable (t : Instant) : Bool := !t.before firstStorable && t.before storableEnd

def secondNanos : Int := 1_000_000_000

def secondMicros : Int := 1_000_000

def stored (t : Instant) : Instant :=
  let nanos := (t.seconds - epoch.seconds) * secondNanos + t.nanos
  let micros := nanos.tdiv 1000
  ⟨epoch.seconds + micros / secondMicros, (micros % secondMicros * 1000).toNat⟩

end Instant

inductive Parameter where
  | text (s : String)
  | time (t : Instant)

namespace Parameter

def fault? : Parameter → Option StoreFault
  | .text s => if s.toList.contains '\x00' then some .badText else none
  | .time t => if t.isStorable then none else some .badTime

def texts (ss : List String) : List Parameter := ss.map .text

/-- Texts as parameters, where there are any. -/
def textsOf (ss : List (Option String)) : List Parameter := texts (ss.filterMap id)

/-- Times as parameters, where there are any. -/
def timesOf (ts : List (Option Instant)) : List Parameter := (ts.filterMap id).map .time

end Parameter
end Shop
