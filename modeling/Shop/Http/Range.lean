import Shop.Number.Integer

/-!
# Ranges of bytes

A request may ask for some bytes of a file, from a first to a last one or so many at the end.  Only
one such range is served.  A range is written strictly: no leading zeros, no blanks inside, and only
a last position may lie behind the end of the file.
-/

namespace Shop
namespace Http

inductive ByteRange where
  /-- From a position to another, or to the end. -/
  | span (first : Nat) (last : Option Nat)
  | final (count : Nat)
  deriving Repr, DecidableEq

namespace ByteRange

def maxPosition : Nat := Nat.pow 2 64 - 1

/-- Read a position, without sign or leading zeros. -/
def position? (s : String) : Option Nat :=
  let cs := s.toList
  let n? := cs.foldl (fun n c => do return 10 * (← n) + (← Number.digit? c)) (some 0)
  if cs.isEmpty ∨ (cs.head? = some '0' ∧ cs.length ≠ 1) then none
  else n?.filter (· ≤ maxPosition)

def read (s : String) : Option ByteRange := do
  guard ("bytes=".toList.isPrefixOf s.toList)
  match (String.ofList (s.toList.drop 6)).splitOn "-" with
  | ["", count] =>
    let count ← position? count
    if count = 0 then none else some (.final count)
  | [first, ""] => return .span (← position? first) none
  | [first, last] => return .span (← position? first) (some (← position? last))
  | _ => none

/-- The first and the last byte of a range in a file of a size, if it has such bytes. -/
def within? (size : Nat) : ByteRange → Option (Nat × Nat)
  | .span first last =>
    let last := min (last.getD maxPosition) (size - 1)
    if first ≤ last then some (first, last) else none
  | .final count => if count ≤ size then some (size - count, size - 1) else none

end ByteRange
end Http
end Shop
