/-!
# BLAKE2b

The hash function BLAKE2b without a key, for digests of 1 to 64 bytes.  A message is taken in blocks
of sixteen words of 64 bits, the low byte of a word first; the last block is filled up with zeros.
-/

namespace Shop

/-- The byte at a position, zero behind the end. -/
def byteOrZero (b : ByteArray) (i : Nat) : UInt8 :=
  if h : i < b.size then b[i] else 0

/-- The word of eight bytes that begins at a position, the low byte first. -/
def wordAt (b : ByteArray) (i : Nat) : UInt64 :=
  Nat.fold 8 (fun k _ word => word ||| ((byteOrZero b (i + k)).toUInt64 <<< (8 * k).toUInt64)) 0

/-- Append the low bytes of a word, the lowest first. -/
def pushWord (count : Nat) (out : ByteArray) (word : UInt64) : ByteArray :=
  Nat.fold count (fun k _ out => out.push (word >>> (8 * k).toUInt64).toUInt8) out

/-- The four bytes of a number, the low byte first. -/
def fourBytes (n : Nat) : ByteArray := pushWord 4 .empty n.toUInt64

@[inline]
def turnRight (word : UInt64) (bits : UInt64) : UInt64 :=
  (word >>> bits) ||| (word <<< (64 - bits))

namespace Blake2b

/-- The sixteen words of a block, or of the state while a block is taken in. -/
abbrev Words := Vector UInt64 16

abbrev Chain := Vector UInt64 8

def blockBytes : Nat := 128

/-- The words from which hashing starts. -/
def start : Chain :=
  #v[0x6a09e667f3bcc908, 0xbb67ae8584caa73b, 0x3c6ef372fe94f82b, 0xa54ff53a5f1d36f1,
    0x510e527fade682d1, 0x9b05688c2b3e6c1f, 0x1f83d9abfb41bd6b, 0x5be0cd19137e2179]

/-- In which order the words of a block are used: a row for each round. -/
def orders : List (Vector (Fin 16) 16) :=
  [#v[0, 1, 2, 3, 4, 5, 6, 7, 8, 9, 10, 11, 12, 13, 14, 15],
    #v[14, 10, 4, 8, 9, 15, 13, 6, 1, 12, 0, 2, 11, 7, 5, 3],
    #v[11, 8, 12, 0, 5, 2, 15, 13, 10, 14, 3, 6, 7, 1, 9, 4],
    #v[7, 9, 3, 1, 13, 12, 11, 14, 2, 6, 5, 10, 4, 0, 15, 8],
    #v[9, 0, 5, 7, 2, 4, 10, 15, 14, 1, 11, 12, 6, 8, 3, 13],
    #v[2, 12, 6, 10, 0, 11, 8, 3, 4, 13, 7, 5, 15, 14, 1, 9],
    #v[12, 5, 1, 15, 14, 13, 4, 10, 0, 7, 6, 3, 9, 2, 8, 11],
    #v[13, 11, 7, 14, 12, 1, 3, 9, 5, 0, 15, 4, 8, 6, 2, 10],
    #v[6, 15, 14, 9, 11, 3, 0, 8, 12, 2, 13, 7, 1, 4, 10, 5],
    #v[10, 2, 8, 4, 7, 6, 1, 5, 15, 11, 9, 14, 3, 12, 13, 0],
    #v[0, 1, 2, 3, 4, 5, 6, 7, 8, 9, 10, 11, 12, 13, 14, 15],
    #v[14, 10, 4, 8, 9, 15, 13, 6, 1, 12, 0, 2, 11, 7, 5, 3]]

/-- Mix two words of a block into four words of the state. -/
def mix (v : Words) (a b c d : Fin 16) (x y : UInt64) : Words :=
  let va := v[a] + v[b] + x
  let vd := turnRight (v[d] ^^^ va) 32
  let vc := v[c] + vd
  let vb := turnRight (v[b] ^^^ vc) 24
  let va := va + vb + y
  let vd := turnRight (vd ^^^ va) 16
  let vc := vc + vd
  let vb := turnRight (vb ^^^ vc) 63
  (((v.set a va).set b vb).set c vc).set d vd

/-- A round: the columns of the state, then its diagonals. -/
def round (m : Words) (v : Words) (order : Vector (Fin 16) 16) : Words :=
  let word (i : Fin 16) := m[order[i]]
  let v := mix v 0 4 8 12 (word 0) (word 1)
  let v := mix v 1 5 9 13 (word 2) (word 3)
  let v := mix v 2 6 10 14 (word 4) (word 5)
  let v := mix v 3 7 11 15 (word 6) (word 7)
  let v := mix v 0 5 10 15 (word 8) (word 9)
  let v := mix v 1 6 11 12 (word 10) (word 11)
  let v := mix v 2 7 8 13 (word 12) (word 13)
  mix v 3 4 9 14 (word 14) (word 15)

/-- Take in a block, where `count` bytes have been taken in with it. -/
def compress (chain : Chain) (m : Words) (count : Nat) (last : Bool) : Chain :=
  let v : Words := chain ++ start
  let v := v.set 12 (v[12] ^^^ count.toUInt64)
  let v := v.set 13 (v[13] ^^^ (count / Nat.pow 2 64).toUInt64)
  let v := if last then v.set 14 (~~~v[14]) else v
  let v := orders.foldl (round m) v
  Vector.ofFn fun i => chain[i] ^^^ v[i.val] ^^^ v[i.val + 8]

def blockAt (message : ByteArray) (i : Nat) : Words :=
  Vector.ofFn fun k => wordAt message (i + 8 * k.val)

/-- Take in a message from a position on. -/
def absorb (message : ByteArray) (chain : Chain) (i : Nat) : Chain :=
  if message.size ≤ i + blockBytes then compress chain (blockAt message i) message.size true
  else absorb message (compress chain (blockAt message i) (i + blockBytes) false) (i + blockBytes)
termination_by message.size - i
decreasing_by
  simp only [blockBytes] at *
  omega

def hash (length : Nat) (message : ByteArray) : ByteArray :=
  let chain := start.set 0 (start[0] ^^^ 0x01010000 ^^^ length.toUInt64)
  let bytes := (absorb message chain 0).foldl (pushWord 8) .empty
  bytes.extract 0 length

end Blake2b
end Shop
