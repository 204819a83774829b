import Shop.Picture.Checksum
import Shop.Picture.Inflate
import Shop.Picture.Raster

/-!
# PNG pictures

A PNG picture is a sequence of chunks: a header, perhaps a palette and a note on transparency, the
compressed rows, and more.  Rows are filtered against their neighbours and may come in seven passes
over ever finer grids.  A picture is read as soon as the chunk behind its data is announced; what
follows is of no interest.  Pictures with a palette, with samples of less than eight bits or with a
transparent colour are widened to plain samples of eight or sixteen bits.
-/

namespace Shop
namespace Picture
namespace Png

/-! ## Chunks -/

/-- A byte, zero beyond the end. -/
def byteAt (bytes : ByteArray) (i : Nat) : Nat :=
  if h : i < bytes.size then bytes[i].toNat else 0

/-- A number of `count` bytes, the high byte first. -/
def number (bytes : ByteArray) (pos count : Nat) : Nat :=
  (List.range count).foldl (fun n i => 256 * n + byteAt bytes (pos + i)) 0

/-- The number that the four letters of a chunk's name make. -/
def named (name : String) : Nat :=
  name.toList.foldl (fun n c => 256 * n + c.toNat) 0

/-- A chunk: its name, where its data lie, and whether it is whole and fits its checksum. -/
structure Chunk where
  name : Nat
  start : Nat
  stop : Nat
  whole : Bool
  sound : Bool

def Chunk.data (bytes : ByteArray) (c : Chunk) : ByteArray := bytes.extract c.start c.stop

/-- Whether a picture cannot be shown without a chunk: its name begins with a capital. -/
def Chunk.isCritical (c : Chunk) : Bool := c.name / Nat.pow 2 29 % 2 == 0

/-- The chunks from a position on, up to the first that is not whole. -/
def chunks (bytes : ByteArray) (pos : Nat) : List Chunk :=
  if _h : pos + 8 ≤ bytes.size then
    let start := pos + 8
    let stop := start + number bytes pos 4
    let name := number bytes (pos + 4) 4
    if _h : stop + 4 ≤ bytes.size then
      let sound := (checksum bytes (pos + 4) stop).toNat == number bytes stop 4
      ⟨name, start, stop, true, sound⟩ :: chunks bytes (stop + 4)
    else [⟨name, start, stop, false, false⟩]
  else []
termination_by bytes.size - pos

/-! ## The header -/

inductive Kind where
  | gray
  | rgb
  | indexed
  | grayAlpha
  | rgbAlpha
  deriving Repr, DecidableEq

/-- The numbers of a pixel as it is stored. -/
def Kind.channels : Kind → Nat
  | .gray | .indexed => 1
  | .grayAlpha => 2
  | .rgb => 3
  | .rgbAlpha => 4

/-- The kind of a number, and the widths that its samples may have. -/
def Kind.of? : Nat → Option (Kind × List Nat)
  | 0 => some (.gray, [1, 2, 4, 8, 16])
  | 2 => some (.rgb, [8, 16])
  | 3 => some (.indexed, [1, 2, 4, 8])
  | 4 => some (.grayAlpha, [8, 16])
  | 6 => some (.rgbAlpha, [8, 16])
  | _ => none

structure Header where
  width : Nat
  height : Nat
  kind : Kind
  depth : Nat
  interlaced : Bool

def Header.read? (data : ByteArray) : Option Header := do
  if data.size ≠ 13 then none
  let width := number data 0 4
  let height := number data 4 4
  let (kind, depths) ← Kind.of? (byteAt data 9)
  let depth := byteAt data 8
  if width = 0 ∨ height = 0 ∨ !depths.contains depth then none
  if byteAt data 10 ≠ 0 ∨ byteAt data 11 ≠ 0 ∨ 1 < byteAt data 12 then none
  return { width, height, kind, depth, interlaced := byteAt data 12 = 1 }

def Header.pixelBits (h : Header) : Nat := h.kind.channels * h.depth

/-! ## Rows -/

/-- A grid of pixels that is stored as one run of rows. -/
structure Pass where
  left : Nat
  top : Nat
  stepX : Nat
  stepY : Nat

/-- The seven grids of an interlaced picture. -/
def interlacedPasses : List Pass :=
  [⟨0, 0, 8, 8⟩, ⟨4, 0, 8, 8⟩, ⟨0, 4, 4, 8⟩, ⟨2, 0, 4, 4⟩, ⟨0, 2, 2, 4⟩, ⟨1, 0, 2, 2⟩, ⟨0, 1, 1, 2⟩]

def Header.passes (h : Header) : List Pass :=
  if h.interlaced then interlacedPasses else [⟨0, 0, 1, 1⟩]

namespace Pass

def steps (size first step : Nat) : Nat := (size - first + step - 1) / step

def width (p : Pass) (h : Header) : Nat := steps h.width p.left p.stepX

/-- The rows of the grid; a grid without columns has none. -/
def height (p : Pass) (h : Header) : Nat :=
  if p.width h = 0 then 0 else steps h.height p.top p.stepY

def rowBytes (p : Pass) (h : Header) : Nat := (p.width h * h.pixelBits + 7) / 8

def holds (p : Pass) (x y : Nat) : Bool :=
  p.left ≤ x && (x - p.left) % p.stepX == 0 && p.top ≤ y && (y - p.top) % p.stepY == 0

end Pass

/-- The bytes of all rows, each behind the byte of its filter. -/
def Header.storedBytes (h : Header) : Nat :=
  h.passes.foldl (fun bytes p => bytes + p.height h * (p.rowBytes h + 1)) 0

/-- The neighbour that is nearest to the sum of left and upper less the corner. -/
def paeth (left upper corner : Nat) : Nat :=
  let p : Int := left + upper - corner
  let a := (p - left).natAbs
  let b := (p - upper).natAbs
  let c := (p - corner).natAbs
  if a ≤ b ∧ a ≤ c then left else if b ≤ c then upper else corner

def predicted? (filter left upper corner : Nat) : Option Nat :=
  match filter with
  | 0 => some 0
  | 1 => some left
  | 2 => some upper
  | 3 => some ((left + upper) / 2)
  | 4 => some (paeth left upper corner)
  | _ => none

/-- Take the filter off a row.  The bytes of the row begin at `start`, `step` is the distance of the
left neighbour, `above` the row above. -/
def unfilterRow (bytes : ByteArray) (start step filter : Nat) (above : ByteArray) (size : Nat) :
    ByteArray :=
  Nat.fold size (fun i _ row =>
    let left := if i < step then 0 else byteAt row (i - step)
    let corner := if i < step then 0 else byteAt above (i - step)
    let add := (predicted? filter left (byteAt above i) corner).getD 0
    row.push (UInt8.ofNat (byteAt bytes (start + i) + add))) .empty

def unfilterRows (bytes : ByteArray) (step size : Nat) :
    Nat → Nat → ByteArray → Array ByteArray → Option (Array ByteArray)
  | 0, _, _, rows => some rows
  | count + 1, pos, above, rows => do
    let filter := byteAt bytes pos
    if 4 < filter then none
    let row := unfilterRow bytes (pos + 1) step filter above size
    unfilterRows bytes step size count (pos + 1 + size) row (rows.push row)

/-- The rows of all grids, one after the other from a position on. -/
def passRows (h : Header) (bytes : ByteArray) :
    Nat → List Pass → Option (List (Pass × Array ByteArray))
  | _, [] => some []
  | pos, p :: passes => do
    let size := p.rowBytes h
    let count := p.height h
    let stop := pos + count * (size + 1)
    if bytes.size < stop then none
    let rows ← unfilterRows bytes (max (h.pixelBits / 8) 1) size count pos .empty #[]
    let others ← passRows h bytes stop passes
    return (p, rows) :: others

/-! ## Samples -/

def storedSample (h : Header) (row : ByteArray) (x channel : Nat) : Nat :=
  let i := x * h.kind.channels + channel
  if h.depth = 16 then 256 * byteAt row (2 * i) + byteAt row (2 * i + 1)
  else
    let bit := i * h.depth
    byteAt row (bit / 8) / Nat.pow 2 (8 - h.depth - bit % 8) % Nat.pow 2 h.depth

/-- A sample of a pixel of the picture. -/
def sampleAt (h : Header) (parts : List (Pass × Array ByteArray)) (x y channel : Nat) : Nat :=
  match parts.find? fun part => part.1.holds x y with
  | some (p, rows) =>
    storedSample h (rows.getD ((y - p.top) / p.stepY) .empty) ((x - p.left) / p.stepX) channel
  | none => 0

/-- What the chunks before the data say. -/
structure Notes where
  palette : Option ByteArray
  /-- The note on transparency, if it fits the picture. -/
  transparency : Option ByteArray
  /-- The number of the last frame that was announced. -/
  frame : Option Nat
  /-- Whether the primary colours were told. -/
  primaries : Bool

def Notes.start : Notes := ⟨none, none, none, false⟩

/-- Whether a palette holds whole colours and no more than a byte can count. -/
def isPalette (data : ByteArray) : Bool :=
  data.size % 3 == 0 && 3 ≤ data.size && data.size ≤ 768

/-- Whether a note on transparency fits the picture: a colour, or opacities for a palette that is
already there, and in no case more than a palette can have. -/
def Notes.fits (n : Notes) (h : Header) (t : ByteArray) : Bool :=
  t.size ≤ 256 && match h.kind with
    | .gray => 2 ≤ t.size
    | .rgb => 6 ≤ t.size
    | .indexed => n.palette.isSome && 1 ≤ t.size
    | .grayAlpha | .rgbAlpha => false

/-- Whether the announcement of a frame is that of the picture itself: it is whole, follows the one
before, covers the picture and tells how to show the frame. -/
def Notes.announces (n : Notes) (h : Header) (data : ByteArray) : Bool :=
  data.size == 26 && number data 0 4 == (match n.frame with | some i => i + 1 | none => 0) &&
    number data 4 4 == h.width && number data 8 4 == h.height &&
    number data 12 4 == 0 && number data 16 4 == 0 && byteAt data 24 ≤ 2 && byteAt data 25 ≤ 1

/-- Whether a note on the primary colours is one of pixels of red, green and blue: it names no matrix
to make them from, and a range. -/
def isPrimaries (data : ByteArray) : Bool := byteAt data 2 == 0 && byteAt data 3 ≤ 1

/-- The opacities of the palette; more of them than there are colours are of no account. -/
def Notes.opacities (n : Notes) : ByteArray :=
  (n.transparency.filter fun t => 3 * t.size ≤ (n.palette.getD .empty).size).getD .empty

/-- Whether a pixel has the transparent colour.  Samples of two bytes are compared with the whole
note, so that no pixel equals a note that is too long. -/
def isKey (h : Header) (t : ByteArray) (stored : Nat → Nat) : Bool :=
  (h.depth < 16 || t.size == 2 * h.kind.channels) &&
    (List.range h.kind.channels).all fun c =>
      stored c == (if h.depth = 16 then number t (2 * c) 2 else byteAt t (2 * c + 1))

/-- The colour of the picture once it is widened. -/
def Notes.color (n : Notes) (h : Header) : Color :=
  let extra := if n.transparency.isSome then 1 else 0
  { channels := (if h.kind = .indexed then 3 else h.kind.channels) + extra
    wide := h.depth = 16 }

/-- A gray sample of few bits, spread over the range of eight. -/
def spread (depth n : Nat) : Nat :=
  if depth < 8 then n * (255 / (Nat.pow 2 depth - 1)) else n

def Notes.widened (n : Notes) (h : Header) (stored : Nat → Nat → Nat → Nat) (x y channel : Nat) :
    Nat :=
  if h.kind = .indexed then
    let i := stored x y 0
    let palette := n.palette.getD .empty
    if palette.size < 3 * i + 3 then (if channel = 3 then 255 else 0)
    else if channel = 3 then
      if i < n.opacities.size then byteAt n.opacities i else 255
    else byteAt palette (3 * i + channel)
  else if channel < h.kind.channels then spread h.depth (stored x y channel)
  else
    if isKey h (n.transparency.getD .empty) (stored x y) then 0
    else if h.depth = 16 then 65535 else 255

/-! ## The picture -/

/-- Read a chunk before the data.  One that the picture cannot be shown without must be sound, and so
must the announcement of a frame; others are passed over when they are damaged. -/
def Notes.withChunk (n : Notes) (h : Header) (bytes : ByteArray) (c : Chunk) : Option Notes :=
  let data := c.data bytes
  if c.name = named "PLTE" then
    if c.sound && n.palette.isNone && isPalette data then some { n with palette := some data }
    else none
  else if c.isCritical then none
  else if !c.sound then some n
  else if c.name = named "tRNS" then
    if n.transparency.isNone && n.fits h data then some { n with transparency := some data }
    else some n
  else if c.name = named "fcTL" then
    if n.announces h data then some { n with frame := some (number data 0 4) } else none
  else if c.name = named "cICP" ∧ !n.primaries ∧ n.palette.isNone ∧ data.size = 4 then
    if isPrimaries data then some { n with primaries := true } else none
  else some n

/-- Read the chunks before the data; yields the notes and the chunks from the first data on.  Data of
a later frame must not come first. -/
def readNotes (h : Header) (bytes : ByteArray) (n : Notes) : List Chunk →
    Option (Notes × List Chunk)
  | [] => none
  | c :: rest =>
    if c.name = named "IDAT" then some (n, c :: rest)
    else if !c.whole || c.name = named "fdAT" then none
    else match n.withChunk h bytes c with
      | none => none
      | some n => readNotes h bytes n rest

/-- Join the data of the chunks up to the one behind them, which must at least be announced. -/
def joinData (bytes : ByteArray) (out : ByteArray) : List Chunk → Option ByteArray
  | [] => none
  | c :: rest =>
    if c.name ≠ named "IDAT" then some out
    else if c.whole && c.sound then joinData bytes (out ++ c.data bytes) rest
    else none

end Png

open Png in
/-- Read a PNG picture from behind its signature. -/
def readPng (bytes : ByteArray) : Option Raster := do
  match chunks bytes 8 with
  | [] => none
  | first :: rest =>
    if first.name ≠ named "IHDR" ∨ !first.whole ∨ !first.sound then none
    let h ← Header.read? (first.data bytes)
    let (notes, rest) ← readNotes h bytes .start rest
    if h.kind = .indexed ∧ notes.palette.isNone then none
    let data ← joinData bytes .empty rest
    let parts ← passRows h (← inflate data h.storedBytes) 0 h.passes
    let color := notes.color h
    return {
      width := h.width, height := h.height, color
      samples :=
        some (Raster.generate h.width h.height color (notes.widened h (sampleAt h parts))) }

end Picture
end Shop
