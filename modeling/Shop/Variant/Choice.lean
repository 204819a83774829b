import Shop.Text.Lowercase
import Shop.Variant.Limit

/-!
# Choices of option values

A product is one choice of a value from each option.  `Walk` runs through all choices with a
counter per option, the counter of the last option turning fastest, and says at each step how many
choices are still to come.  `choices` is the list of all choices, defined without counters.
-/

namespace Shop
namespace Variant

/-- An option value made ready for combining. -/
structure Placeholder (V : Type) where
  /-- `name: value`. -/
  summary : String
  /-- The lowercased value, a part of a SKU. -/
  fragment : String
  value : V

/-- The placeholders of one option, in the order of its values. -/
def placeholders (label : V → String) (name : String) (values : List V) : List (Placeholder V) :=
  values.map fun value =>
    ⟨name ++ ": " ++ label value, Text.lowercase (label value), value⟩

/-- One value from each option, in the order of the options. -/
structure Combination (V : Type) where
  summaries : List String
  fragments : List String
  values : List V

def Combination.ofPicks (picks : List (Placeholder V)) : Combination V :=
  ⟨picks.map (·.summary), picks.map (·.fragment), picks.map (·.value)⟩

/-- All choices of one element from each list, in lexicographic order: the first list outermost. -/
def choices : List (List α) → List (List α)
  | [] => [[]]
  | axis :: axes => axis.flatMap fun a => (choices axes).map (a :: ·)

/-- Where a walk through the choices stands. -/
structure Walk (V : Type) where
  axes : List (List (Placeholder V))
  position : List Nat
  /-- How many choices are still to come; `none` if they cannot be counted. -/
  remaining : Option Nat
  finished : Bool

namespace Walk

/-- A walk at its first choice.  An empty axis leaves nothing to choose. -/
def start (axes : List (List (Placeholder V))) : Walk V :=
  let finished := axes.any (·.isEmpty)
  { axes
    position := axes.map fun _ => 0
    remaining := if finished then some 0 else count (axes.map (·.length))
    finished }

/-- The placeholders under the counters. -/
def picks : List (List α) → List Nat → Option (List α)
  | axis :: axes, i :: position => do
    let a ← axis[i]?
    let rest ← picks axes position
    return a :: rest
  | _, _ => some []

/-- Turn the last counter, and each counter before one that went round.  The flag says that the
first one went round. -/
def turn : List (List α) → List Nat → List Nat × Bool
  | axis :: axes, i :: position =>
    match turn axes position with
    | (rest, false) => (i :: rest, false)
    | (rest, true) => if i + 1 < axis.length then ((i + 1) :: rest, false) else (0 :: rest, true)
  | _, _ => ([], true)

def next? (w : Walk V) : Option (Combination V × Walk V) :=
  if w.finished then none
  else do
    let chosen ← picks w.axes w.position
    let (position, finished) := turn w.axes w.position
    return (.ofPicks chosen, { w with position, finished, remaining := w.remaining.map (· - 1) })

/-- Bounds on the number of choices still to come; where they cannot be counted, the largest number
stands below and nothing above. -/
def sizeHint (w : Walk V) : Nat × Option Nat :=
  match w.remaining with
  | some n => (n, some n)
  | none => (countBound - 1, none)

/-- The next choices, at most `steps` of them. -/
def take (w : Walk V) : Nat → List (Combination V)
  | 0 => []
  | steps + 1 =>
    match w.next? with
    | none => []
    | some (c, w) => c :: w.take steps

end Walk
end Variant
end Shop
