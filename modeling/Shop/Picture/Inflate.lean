import Shop.Picture.PrefixCode

/-!
# Inflating

Compressed data in the zlib form: two bytes of header, then blocks of literals and back references
under prefix codes.  Bits are read from the low end of each byte.  The reader knows how many bytes it
wants and stops when it has them, so nothing behind them can do harm, not even a missing checksum.
Every step of a loop moves ahead in the input, which bounds it.
-/

namespace Shop
namespace Picture
namespace Inflate

/-! ## Bits -/

def bit? (bytes : ByteArray) (pos : Nat) : Option Nat :=
  if h : pos / 8 < bytes.size then some ((bytes[pos / 8].toNat >>> (pos % 8)) % 2) else none

/-- A number of `count` bits, the low bit first. -/
def bits? (bytes : ByteArray) (pos : Nat) : Nat → Option Nat
  | 0 => some 0
  | count + 1 => do
    let low ← bit? bytes pos
    let high ← bits? bytes (pos + 1) count
    return low + 2 * high

/-- Read a symbol; yields it with the position behind its word. -/
def symbol? (code : PrefixCode) (bytes : ByteArray) (pos : Nat) : Option (Nat × Nat) :=
  (code.symbol? fun i => bit? bytes (pos + i)).map fun (symbol, size) => (symbol, pos + size)

/-- The code whose symbols have words of the given lengths. -/
def code (lengths : List Nat) : PrefixCode := .ofLengths 15 lengths

/-! ## Lengths and distances -/

/-- The least length of each length symbol from 257 on. -/
def lengthBases : Array Nat :=
  #[3, 4, 5, 6, 7, 8, 9, 10, 11, 13, 15, 17, 19, 23, 27, 31, 35, 43, 51, 59, 67, 83, 99, 115, 131,
    163, 195, 227, 258]

/-- The bits that follow each length symbol. -/
def lengthExtras : Array Nat :=
  #[0, 0, 0, 0, 0, 0, 0, 0, 1, 1, 1, 1, 2, 2, 2, 2, 3, 3, 3, 3, 4, 4, 4, 4, 5, 5, 5, 5, 0]

def distanceBases : Array Nat :=
  #[1, 2, 3, 4, 5, 7, 9, 13, 17, 25, 33, 49, 65, 97, 129, 193, 257, 385, 513, 769, 1025, 1537,
    2049, 3073, 4097, 6145, 8193, 12289, 16385, 24577]

/-- The bits that follow each distance symbol. -/
def distanceExtras : Array Nat :=
  #[0, 0, 0, 0, 1, 1, 2, 2, 3, 3, 4, 4, 5, 5, 6, 6, 7, 7, 8, 8, 9, 9, 10, 10, 11, 11, 12, 12, 13,
    13]

/-- A base with the number that follows it. -/
def extended? (bases extras : Array Nat) (bytes : ByteArray) (pos symbol : Nat) :
    Option (Nat × Nat) := do
  let base ← bases[symbol]?
  let extra ← extras[symbol]?
  let more ← bits? bytes pos extra
  return (base + more, pos + extra)

def repeatBytes (out : ByteArray) (distance : Nat) : Nat → ByteArray
  | 0 => out
  | count + 1 => repeatBytes (out.push (out.get! (out.size - distance))) distance count

/-- Read a back reference behind its length symbol.  No more than `wanted` bytes are kept. -/
def reference? (distances : PrefixCode) (bytes : ByteArray) (wanted pos symbol : Nat)
    (out : ByteArray) : Option (Nat × ByteArray) := do
  let (length, pos) ← extended? lengthBases lengthExtras bytes pos (symbol - 257)
  let (symbol, pos) ← symbol? distances bytes pos
  let (distance, pos) ← extended? distanceBases distanceExtras bytes pos symbol
  if out.size < distance then none
  else return (pos, repeatBytes out distance (min length (wanted - out.size)))

/-! ## Blocks -/

def endSymbol : Nat := 256

/-- Read literals and references up to the end of the block or the last byte that is wanted. -/
def codedBlock (literals distances : PrefixCode) (bytes : ByteArray) (wanted pos : Nat)
    (out : ByteArray) : Option (Nat × ByteArray) :=
  if wanted ≤ out.size then some (pos, out)
  else match symbol? literals bytes pos with
    | none => none
    | some (symbol, next) =>
      if symbol = endSymbol then some (next, out)
      else
        match (if symbol < endSymbol then some (next, out.push (UInt8.ofNat symbol))
          else reference? distances bytes wanted next symbol out) with
        | none => none
        | some (next, out) =>
          if _h : pos < next ∧ pos < 8 * bytes.size then
            codedBlock literals distances bytes wanted next out
          else none
termination_by 8 * bytes.size - pos

def nextByte (pos : Nat) : Nat := (pos + 7) / 8

/-- Read a block of plain bytes, up to the last byte that is wanted. -/
def plainBlock (bytes : ByteArray) (wanted pos : Nat) (out : ByteArray) :
    Option (Nat × ByteArray) := do
  let start := nextByte pos
  let size ← bits? bytes (8 * start) 16
  let check ← bits? bytes (8 * start + 16) 16
  if size + check ≠ 0xFFFF then none
  let stop := start + 4 + min size (wanted - out.size)
  if bytes.size < stop then none
  return (8 * stop, out ++ bytes.extract (start + 4) stop)

/-- The lengths of the words of the fixed literal code. -/
def fixedLengths : List Nat :=
  List.replicate 144 8 ++ List.replicate 112 9 ++ List.replicate 24 7 ++ List.replicate 8 8

def fixedLiterals : PrefixCode := code fixedLengths

def fixedDistances : PrefixCode := code (List.replicate 32 5)

/-- The order in which the lengths of the code for lengths are given. -/
def lengthOrder : List Nat :=
  [16, 17, 18, 0, 8, 7, 9, 6, 10, 5, 11, 4, 12, 3, 13, 2, 14, 1, 15]

def metaLengths? (bytes : ByteArray) (pos count : Nat) : Option (List Nat) := do
  let given ← (List.range count).mapM fun i => bits? bytes (pos + 3 * i) 3
  return (List.range 19).map fun symbol =>
    (lengthOrder.idxOf? symbol).bind (given[·]?) |>.getD 0

/-- Read `count` lengths; `done` holds those already read, the last first. -/
def lengths? (code : PrefixCode) (bytes : ByteArray) (pos count : Nat) (done : List Nat) :
    Option (Nat × List Nat) :=
  if count ≤ done.length then
    if done.length = count then some (pos, done.reverse) else none
  else match symbol? code bytes pos with
    | none => none
    | some (symbol, next) =>
      let found : Option (Nat × List Nat) :=
        if symbol < 16 then some (next, [symbol])
        else if symbol = 16 then do
          let last ← done.head?
          let n ← bits? bytes next 2
          return (next + 2, List.replicate (n + 3) last)
        else if symbol = 17 then do
          let n ← bits? bytes next 3
          return (next + 3, List.replicate (n + 3) 0)
        else do
          let n ← bits? bytes next 7
          return (next + 7, List.replicate (n + 11) 0)
      match found with
      | none => none
      | some (next, more) =>
        if _h : pos < next ∧ pos < 8 * bytes.size then
          lengths? code bytes next count (more ++ done)
        else none
termination_by 8 * bytes.size - pos

/-- The codes that a block brings along, with the position behind them. -/
def ownCodes? (bytes : ByteArray) (pos : Nat) : Option (Nat × PrefixCode × PrefixCode) := do
  let literalCount := (← bits? bytes pos 5) + 257
  let distanceCount := (← bits? bytes (pos + 5) 5) + 1
  let metaCount := (← bits? bytes (pos + 10) 4) + 4
  if 286 < literalCount ∨ 30 < distanceCount then none
  let metaCode := code (← metaLengths? bytes (pos + 14) metaCount)
  if !metaCode.isComplete then none
  let (pos, lengths) ←
    lengths? metaCode bytes (pos + 14 + 3 * metaCount) (literalCount + distanceCount) []
  let literals := code (lengths.take literalCount)
  let distances := code (lengths.drop literalCount)
  if lengths[endSymbol]?.getD 0 = 0 ∨ !literals.isComplete then none
  if !(distances.isComplete || distances.isSingle) then none
  return (pos, literals, distances)

/-- Read one block behind its three bits of header. -/
def block (kind : Nat) (bytes : ByteArray) (wanted pos : Nat) (out : ByteArray) :
    Option (Nat × ByteArray) :=
  match kind with
  | 0 => plainBlock bytes wanted pos out
  | 1 => codedBlock fixedLiterals fixedDistances bytes wanted pos out
  | 2 => do
    let (pos, literals, distances) ← ownCodes? bytes pos
    codedBlock literals distances bytes wanted pos out
  | _ => none

def blocks (bytes : ByteArray) (wanted pos : Nat) (out : ByteArray) : Option ByteArray :=
  match bits? bytes pos 1, bits? bytes (pos + 1) 2 with
  | some last, some kind =>
    match block kind bytes wanted (pos + 3) out with
    | none => none
    | some (next, out) =>
      if wanted ≤ out.size then some out
      else if last = 1 then none
      else if _h : pos < next ∧ pos < 8 * bytes.size then blocks bytes wanted next out
      else none
  | _, _ => none
termination_by 8 * bytes.size - pos

/-- Whether the two bytes of a header are those of a stream without dictionary. -/
def isHeader (first second : Nat) : Bool :=
  (256 * first + second) % 31 == 0 && first % 16 == 8 && first / 16 ≤ 7 && second / 32 % 2 == 0

end Inflate

/-- The first `wanted` bytes of a compressed stream, if it has as many. -/
def inflate (bytes : ByteArray) (wanted : Nat) : Option ByteArray := do
  let first ← Inflate.bits? bytes 0 8
  let second ← Inflate.bits? bytes 8 8
  if !Inflate.isHeader first second then none
  Inflate.blocks bytes wanted 16 .empty

end Picture
end Shop
