/-!
# Reading integers

Decimal integers as they stand in addresses, queries and settings: an optional sign, then ASCII
digits and nothing else, the value within given bounds.  The causes of failure are told apart in
the order in which a reader meets them.
-/

namespace Shop
namespace Number

/-- Why a text is not an integer of the wanted range. -/
inductive IntegerFault where
  | empty
  | invalidDigit
  | tooLarge
  | tooSmall
  deriving Repr, DecidableEq

def IntegerFault.message : IntegerFault → String
  | .empty => "cannot parse integer from empty string"
  | .invalidDigit => "invalid digit found in string"
  | .tooLarge => "number too large to fit in target type"
  | .tooSmall => "number too small to fit in target type"

def IntegerFault.name : IntegerFault → String
  | .empty => "Empty"
  | .invalidDigit => "InvalidDigit"
  | .tooLarge => "PosOverflow"
  | .tooSmall => "NegOverflow"

structure IntegerRange where
  low : Int
  high : Int

def int32 : IntegerRange := ⟨-Int.pow 2 31, Int.pow 2 31 - 1⟩

def int64 : IntegerRange := ⟨-Int.pow 2 63, Int.pow 2 63 - 1⟩

def uint16 : IntegerRange := ⟨0, Int.pow 2 16 - 1⟩

def uint64 : IntegerRange := ⟨0, Int.pow 2 64 - 1⟩

/-- Whether an integer lies within the bounds. -/
def IntegerRange.holds (r : IntegerRange) (n : Int) : Bool :=
  decide (r.low ≤ n ∧ n ≤ r.high)

def digit? (c : Char) : Option Nat :=
  if '0' ≤ c ∧ c ≤ '9' then some (c.toNat - '0'.toNat) else none

/-- Read digits after `value`, stopping at the first that is no digit or leaves the range. -/
def IntegerRange.readDigits (r : IntegerRange) (negative : Bool) (value : Int) :
    List Char → Except IntegerFault Int
  | [] => .ok value
  | c :: cs =>
    match digit? c with
    | none => .error .invalidDigit
    | some d =>
      let next := if negative then 10 * value - d else 10 * value + d
      if r.high < next then .error .tooLarge
      else if next < r.low then .error .tooSmall
      else r.readDigits negative next cs

/-- Read an integer of the range.  A lone sign is an invalid digit, and so is a minus sign where
the range holds no negative number. -/
def IntegerRange.read (r : IntegerRange) (s : String) : Except IntegerFault Int :=
  match s.toList with
  | [] => .error .empty
  | ['+'] | ['-'] => .error .invalidDigit
  | '+' :: cs => r.readDigits false 0 cs
  | '-' :: cs => if r.low < 0 then r.readDigits true 0 cs else .error .invalidDigit
  | cs => r.readDigits false 0 cs

end Number
end Shop
