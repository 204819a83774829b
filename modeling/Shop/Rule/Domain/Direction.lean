import Shop.Rule.Domain.DirectionTable
import Shop.Text.Lowercase
import Shop.Text.Packed

/-!
# Directions of labels

In a name with characters that are written from right to left, every label must be readable by
itself in one direction.  A label runs in the direction of its first letter.  It may hold letters of
that direction alone, and must end in a letter or a digit, marks on it aside; a label that runs from
right to left does not mix digits of two kinds.
-/

namespace Shop
namespace Domain

inductive Direction where
  | left
  | right
  | arabicDigit
  | europeanDigit
  | neutral
  | attached
  deriving Repr, DecidableEq

def rightSpans : List (Nat × Nat) := Text.readSpans rightText

def arabicDigitSpans : List (Nat × Nat) := Text.readSpans arabicDigitText

def europeanDigitSpans : List (Nat × Nat) := Text.readSpans europeanDigitText

/-- The characters without a direction of their own. -/
def neutralSpans : List (Nat × Nat) := Text.readSpans neutralText

/-- The marks that take the direction of what they stand on. -/
def attachedSpans : List (Nat × Nat) := Text.readSpans attachedText

def Direction.of (c : Char) : Direction :=
  let n := c.toNat
  if c.isAlpha then .left
  else if Text.inSpans europeanDigitSpans n then .europeanDigit
  else if Text.inSpans rightSpans n then .right
  else if Text.inSpans arabicDigitSpans n then .arabicDigit
  else if Text.inSpans attachedSpans n then .attached
  else if Text.inSpans neutralSpans n then .neutral
  else .left

namespace Direction

/-- Whether a character makes its name one that is read from right to left. -/
def turns : Direction → Bool
  | .right | .arabicDigit => true
  | _ => false

/-- What may stand in a label that runs from left to right. -/
def inLeft : Direction → Bool
  | .left | .europeanDigit | .neutral | .attached => true
  | _ => false

/-- What may stand at the end of a label that runs from left to right. -/
def endsLeft : Direction → Bool
  | .left | .europeanDigit => true
  | _ => false

/-- What may stand in a label that runs from right to left. -/
def inRight : Direction → Bool
  | .left => false
  | _ => true

/-- What may stand at the end of a label that runs from right to left. -/
def endsRight : Direction → Bool
  | .right | .europeanDigit | .arabicDigit => true
  | _ => false

end Direction

/-- Whether a label can stand in a name that is read from right to left. -/
def isOneWay (label : List Char) : Bool :=
  let ds := label.map Direction.of
  let last := ds.reverse.find? (· != .attached)
  match ds with
  | [] => true
  | .left :: _ => ds.all Direction.inLeft && last.any Direction.endsLeft
  | .right :: _ =>
    ds.all Direction.inRight && last.any Direction.endsRight &&
      !(ds.contains .europeanDigit && ds.contains .arabicDigit)
  | _ => false

end Domain
end Shop
