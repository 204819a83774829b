/-!
# Base 64

Bytes written with sixty-four signs: letters, digits, plus and slash stand for six bits each.  Four
signs hold three bytes.  A rest of one or two bytes takes two or three signs, in the padded form
filled up to four with equals signs.  The bits that a rest does not use must be zero, so every
sequence of bytes has one form of each kind.
-/

namespace Shop
namespace Base64

/-- The sixty-four signs in the order of their values. -/
def alphabet : Array Char :=
  "ABCDEFGHIJKLMNOPQRSTUVWXYZabcdefghijklmnopqrstuvwxyz0123456789+/".toList.toArray

def sign (n : Nat) : Char := alphabet.getD n '='

def value? (c : Char) : Option Nat :=
  let n := c.toNat
  if 'A' ≤ c ∧ c ≤ 'Z' then some (n - 65)
  else if 'a' ≤ c ∧ c ≤ 'z' then some (n - 71)
  else if '0' ≤ c ∧ c ≤ '9' then some (n + 4)
  else if c = '+' then some 62
  else if c = '/' then some 63
  else none

/-- The values of the signs of one group. -/
def values? (cs : List Char) : Option (List Nat) := cs.mapM value?

def byte (n : Nat) : UInt8 := UInt8.ofNat n

/-- The bytes of a group of two, three or four signs; a rest with bits that no byte uses is
refused. -/
def groupBytes : List Nat → Option (List UInt8)
  | [a, b] => if b % 16 = 0 then some [byte (4 * a + b / 16)] else none
  | [a, b, c] =>
    if c % 4 = 0 then some [byte (4 * a + b / 16), byte (16 * (b % 16) + c / 4)] else none
  | [a, b, c, d] =>
    some [byte (4 * a + b / 16), byte (16 * (b % 16) + c / 4), byte (64 * (c % 4) + d)]
  | _ => none

/-- The signs that end a text: its last group without the filling. -/
def lastGroup (padded : Bool) : List Char → Option (List Char)
  | [a, b, '=', '='] => if padded then some [a, b] else none
  | [a, b, c, '='] => if padded then some [a, b, c] else none
  | [a, b, c, d] => some [a, b, c, d]
  | cs => if padded then none else some cs

/-- Read the groups of a text after the bytes already read. -/
def decodeFrom (padded : Bool) (out : ByteArray) : List Char → Option ByteArray
  | [] => some out
  | a :: b :: c :: d :: e :: rest => do
    let bytes ← groupBytes (← values? [a, b, c, d])
    decodeFrom padded (bytes.foldl ByteArray.push out) (e :: rest)
  | cs => do
    let bytes ← groupBytes (← values? (← lastGroup padded cs))
    return bytes.foldl ByteArray.push out

def decode (s : String) : Option ByteArray := decodeFrom true .empty s.toList

def decodeUnpadded (s : String) : Option ByteArray := decodeFrom false .empty s.toList

/-- The signs of bytes, without filling. -/
def encodeBytes : List UInt8 → List Char
  | [] => []
  | [x] => [sign (x.toNat / 4), sign (16 * (x.toNat % 4))]
  | [x, y] =>
    [sign (x.toNat / 4), sign (16 * (x.toNat % 4) + y.toNat / 16), sign (4 * (y.toNat % 16))]
  | x :: y :: z :: rest =>
    sign (x.toNat / 4) :: sign (16 * (x.toNat % 4) + y.toNat / 16) ::
      sign (4 * (y.toNat % 16) + z.toNat / 64) :: sign (z.toNat % 64) :: encodeBytes rest

def encodeUnpadded (bytes : ByteArray) : String := String.ofList (encodeBytes bytes.toList)

end Base64
end Shop
