import Shop.Password.Blake2b

/-!
# Argon2

The password hash Argon2, which fills a memory of blocks several times over.  The memory is laid out
in lanes, each of four slices.  A new block is made from the block before it and from one that a
pseudorandom word selects; the word comes from the block before (variant d), from a counter (variant
i), or from a counter in the first half of the first pass and from the block before it afterwards
(variant id).
-/

namespace Shop
namespace Argon2

/-- Where the words that select blocks come from. -/
inductive Variant where
  | d
  | i
  | id
  deriving Repr, DecidableEq

def Variant.number : Variant → Nat
  | .d => 0
  | .i => 1
  | .id => 2

/-- The versions of the function.  The older one overwrites a block in later passes, the newer one
adds to it. -/
inductive Version where
  | v16
  | v19
  deriving Repr, DecidableEq

def Version.number : Version → Nat
  | .v16 => 16
  | .v19 => 19

/-- What a hash costs, and what else it depends on beside the password and the salt. -/
structure Recipe where
  variant : Variant
  version : Version
  memory : Nat
  passes : Nat
  lanes : Nat
  length : Nat
  /-- Further data that goes into the hash. -/
  data : ByteArray

/-- Sixteen words of a block, as eight pairs. -/
structure Row where
  (a0 b0 a1 b1 a2 b2 a3 b3 a4 b4 a5 b5 a6 b6 a7 b7 : UInt64)

structure Block where
  (r0 r1 r2 r3 r4 r5 r6 r7 : Row)

namespace Row

/-- A row made from the words at its places. -/
@[inline]
def ofFn (f : Nat → UInt64) : Row :=
  ⟨f 0, f 1, f 2, f 3, f 4, f 5, f 6, f 7, f 8, f 9, f 10, f 11, f 12, f 13, f 14, f 15⟩

def toList (r : Row) : List UInt64 :=
  [r.a0, r.b0, r.a1, r.b1, r.a2, r.b2, r.a3, r.b3, r.a4, r.b4, r.a5, r.b5, r.a6, r.b6, r.a7, r.b7]

/-- The row whose words are the bitwise sums of those of two. -/
def xor (r s : Row) : Row :=
  ⟨r.a0 ^^^ s.a0, r.b0 ^^^ s.b0, r.a1 ^^^ s.a1, r.b1 ^^^ s.b1,
    r.a2 ^^^ s.a2, r.b2 ^^^ s.b2, r.a3 ^^^ s.a3, r.b3 ^^^ s.b3,
    r.a4 ^^^ s.a4, r.b4 ^^^ s.b4, r.a5 ^^^ s.a5, r.b5 ^^^ s.b5,
    r.a6 ^^^ s.a6, r.b6 ^^^ s.b6, r.a7 ^^^ s.a7, r.b7 ^^^ s.b7⟩

/-- Four words that are mixed with each other. -/
structure Quad where
  (a b c d : UInt64)

/-- The sum of two words and of twice the product of their low halves. -/
@[inline]
def addProduct (x y : UInt64) : UInt64 :=
  x + y + 2 * ((x &&& 0xffffffff) * (y &&& 0xffffffff))

@[inline]
def mix (a b c d : UInt64) : Quad :=
  let a := addProduct a b
  let d := turnRight (d ^^^ a) 32
  let c := addProduct c d
  let b := turnRight (b ^^^ c) 24
  let a := addProduct a b
  let d := turnRight (d ^^^ a) 16
  let c := addProduct c d
  let b := turnRight (b ^^^ c) 63
  ⟨a, b, c, d⟩

/-- Mix the words of a row, which stand in four lines of four: the columns, then the diagonals. -/
def permute (r : Row) : Row :=
  let p := mix r.a0 r.a2 r.a4 r.a6
  let q := mix r.b0 r.b2 r.b4 r.b6
  let s := mix r.a1 r.a3 r.a5 r.a7
  let t := mix r.b1 r.b3 r.b5 r.b7
  let e := mix p.a q.b s.c t.d
  let f := mix q.a s.b t.c p.d
  let g := mix s.a t.b p.c q.d
  let h := mix t.a p.b q.c s.d
  ⟨e.a, f.a, g.a, h.a, h.b, e.b, f.b, g.b, g.c, h.c, e.c, f.c, f.d, g.d, h.d, e.d⟩

end Row

namespace Block

def toList (x : Block) : List UInt64 :=
  [x.r0, x.r1, x.r2, x.r3, x.r4, x.r5, x.r6, x.r7].flatMap Row.toList

/-- A block made from the words at its places. -/
def ofFn (f : Nat → UInt64) : Block :=
  let row (i : Nat) := Row.ofFn fun k => f (16 * i + k)
  ⟨row 0, row 1, row 2, row 3, row 4, row 5, row 6, row 7⟩

def zero : Block := ofFn fun _ => 0

/-- The block whose words are the bitwise sums of those of two. -/
def xor (x y : Block) : Block :=
  ⟨x.r0.xor y.r0, x.r1.xor y.r1, x.r2.xor y.r2, x.r3.xor y.r3,
    x.r4.xor y.r4, x.r5.xor y.r5, x.r6.xor y.r6, x.r7.xor y.r7⟩

def permuteRows (x : Block) : Block :=
  ⟨x.r0.permute, x.r1.permute, x.r2.permute, x.r3.permute,
    x.r4.permute, x.r5.permute, x.r6.permute, x.r7.permute⟩

/-- The column of pairs whose words two functions take from the rows. -/
@[inline]
def column (x : Block) (a b : Row → UInt64) : Row :=
  ⟨a x.r0, b x.r0, a x.r1, b x.r1, a x.r2, b x.r2, a x.r3, b x.r3,
    a x.r4, b x.r4, a x.r5, b x.r5, a x.r6, b x.r6, a x.r7, b x.r7⟩

/-- The block whose rows are the columns of pairs. -/
def transpose (x : Block) : Block :=
  ⟨x.column Row.a0 Row.b0, x.column Row.a1 Row.b1, x.column Row.a2 Row.b2,
    x.column Row.a3 Row.b3, x.column Row.a4 Row.b4, x.column Row.a5 Row.b5,
    x.column Row.a6 Row.b6, x.column Row.a7 Row.b7⟩

/-- Make a block from two: their sum, mixed by rows and by columns, and added to itself. -/
def compress (x y : Block) : Block :=
  let sum := x.xor y
  sum.xor sum.permuteRows.transpose.permuteRows.transpose

def ofBytes (bytes : ByteArray) : Block := ofFn fun i => wordAt bytes (8 * i)

def toBytes (x : Block) : ByteArray := x.toList.foldl (pushWord 8) .empty

end Block

/-- The digest of a message, of any length.  A long one is made from a chain of digests of 64
bytes, of which the first halves count and the last one whole. -/
def digest (length : Nat) (message : ByteArray) : ByteArray :=
  let message := fourBytes length ++ message
  if length ≤ 64 then Blake2b.hash length message
  else chain length (Blake2b.hash 64 message) .empty
where
  /-- The rest of a chain after `out`, of which `digest` is the newest digest. -/
  chain (left : Nat) (newest out : ByteArray) : ByteArray :=
    let out := out ++ newest.extract 0 32
    if left ≤ 96 then out ++ Blake2b.hash (left - 32) newest
    else chain (left - 32) (Blake2b.hash 64 newest) out
  termination_by left

namespace Recipe

def slices : Nat := 4

/-- The blocks of a segment, which is the part of a lane in a slice. -/
def segment (s : Recipe) : Nat := s.memory / (slices * s.lanes)

def laneLength (s : Recipe) : Nat := slices * s.segment

def blocks (s : Recipe) : Nat := s.lanes * s.laneLength

/-- The bytes of the largest digest that BLAKE2b gives. -/
def seedBytes : Nat := 64

/-- The digest of all that the hash depends on. -/
def seed (s : Recipe) (password salt : ByteArray) : ByteArray :=
  let field (b : ByteArray) := fourBytes b.size ++ b
  Blake2b.hash seedBytes
    (fourBytes s.lanes ++ fourBytes s.length ++ fourBytes s.memory ++ fourBytes s.passes ++
      fourBytes s.version.number ++ fourBytes s.variant.number ++ field password ++ field salt ++
      fourBytes 0 ++ field s.data)

def blockBytes : Nat := 1024

def firstBlock (seed : ByteArray) (lane column : Nat) : Block :=
  .ofBytes (digest blockBytes (seed ++ fourBytes column ++ fourBytes lane))

/-- A place in the memory while it is filled. -/
structure Place where
  pass : Nat
  slice : Nat
  lane : Nat
  index : Nat

def wordsPerBlock : Nat := 128

/-- Whether a counter gives the selecting words. -/
def counts (s : Recipe) (p : Place) : Bool :=
  match s.variant with
  | .d => false
  | .i => true
  | .id => p.pass == 0 && p.slice < 2

def addresses (s : Recipe) (p : Place) (counter : Nat) : Block :=
  let words := [p.pass, p.lane, p.slice, s.blocks, s.passes, s.variant.number, counter]
  let input := Block.ofFn fun i => (words.getD i 0).toUInt64
  Block.zero.compress (Block.zero.compress input)

/-- How many blocks may be selected from a lane. -/
def choices (s : Recipe) (p : Place) (sameLane : Bool) : Nat :=
  let finished := if p.pass = 0 then p.slice * s.segment else s.laneLength - s.segment
  if sameLane then finished + p.index - 1
  else if p.index = 0 then finished - 1 else finished

/-- The position in the memory of the block that a word selects. -/
def selected (s : Recipe) (p : Place) (word : UInt64) : Nat :=
  let lane :=
    if p.pass = 0 ∧ p.slice = 0 then p.lane else (word >>> 32).toNat % s.lanes
  let choices := s.choices p (lane == p.lane)
  let low := (word &&& 0xffffffff).toNat
  let back := choices * (low * low / Nat.pow 2 32) / Nat.pow 2 32
  let start := if p.pass = 0 ∨ p.slice + 1 = slices then 0 else (p.slice + 1) * s.segment
  lane * s.laneLength + (start + (choices - 1 - back)) % s.laneLength

def blockAt (memory : Array Block) (i : Nat) : Block := memory.getD i .zero

/-- Fill a place; `chosen` is the selecting word if a counter gives it. -/
def fill (s : Recipe) (p : Place) (chosen : Option UInt64) (memory : Array Block) :
    Array Block :=
  let column := p.slice * s.segment + p.index
  let start := p.lane * s.laneLength
  let before := blockAt memory (start + (column + s.laneLength - 1) % s.laneLength)
  let word := chosen.getD before.r0.a0
  let new := before.compress (blockAt memory (s.selected p word))
  let position := start + column
  if p.pass = 0 ∨ s.version = .v16 then memory.setIfInBounds position new
  else
    let old := blockAt memory position
    memory.setIfInBounds position (new.xor old)

def fillSegment (s : Recipe) (p : Place) (words : Array UInt64) (memory : Array Block) :
    Nat → Array Block
  | 0 => memory
  | count + 1 =>
    if s.counts p then
      let words :=
        if p.index % wordsPerBlock = 0 ∨ words.isEmpty then
          (s.addresses p (p.index / wordsPerBlock + 1)).toList.toArray
        else words
      let memory := s.fill p (some (words.getD (p.index % wordsPerBlock) 0)) memory
      fillSegment s { p with index := p.index + 1 } words memory count
    else
      let memory := s.fill p none memory
      fillSegment s { p with index := p.index + 1 } words memory count

def fillSlice (s : Recipe) (pass slice : Nat) (memory : Array Block) : Array Block :=
  let first := if pass = 0 ∧ slice = 0 then 2 else 0
  Nat.fold s.lanes
    (fun lane _ memory => s.fillSegment ⟨pass, slice, lane, first⟩ #[] memory (s.segment - first))
    memory

def fillAll (s : Recipe) (memory : Array Block) : Array Block :=
  Nat.fold s.passes
    (fun pass _ memory => Nat.fold slices (fun slice _ memory => s.fillSlice pass slice memory) memory)
    memory

/-- The memory before it is filled: the first two blocks of each lane stand already. -/
def prepare (s : Recipe) (seed : ByteArray) : Array Block :=
  Nat.fold s.lanes
    (fun lane _ memory =>
      let start := lane * s.laneLength
      (memory.setIfInBounds start (firstBlock seed lane 0)).setIfInBounds (start + 1)
        (firstBlock seed lane 1))
    (Array.replicate s.blocks .zero)

end Recipe

/-- The hash of a password with a salt: the digest of the sum of the last blocks of all lanes. -/
def hash (s : Recipe) (password salt : ByteArray) : ByteArray :=
  let memory := s.fillAll (s.prepare (s.seed password salt))
  let last (lane : Nat) := Recipe.blockAt memory ((lane + 1) * s.laneLength - 1)
  let sum := Nat.fold s.lanes (fun lane _ sum => sum.xor (last lane)) Block.zero
  digest s.length sum.toBytes

end Argon2
end Shop
