/-!
# Rasters

A picture as rows of pixels.  Every pixel has one sample for each channel, and samples have eight or
sixteen bits; those of sixteen are kept low byte first.  A picture may also be known by its size and
colour alone, while its samples stay coded.
-/

namespace Shop

/-- The channels of a picture and the width of their samples. -/
structure Color where
  channels : Nat
  wide : Bool
  deriving Repr, DecidableEq

namespace Color

def sampleBytes (c : Color) : Nat := if c.wide then 2 else 1

def pixelBytes (c : Color) : Nat := c.channels * c.sampleBytes

/-- The name of the kind of colour: gray or red, green and blue, with or without opacity, and the
bits of a sample. -/
def name (c : Color) : String :=
  (match c.channels with
    | 1 => "L"
    | 2 => "La"
    | 3 => "Rgb"
    | _ => "Rgba") ++ (if c.wide then "16" else "8")

end Color

structure Raster where
  width : Nat
  height : Nat
  color : Color
  /-- The samples from the top row to the bottom row, if they are known. -/
  samples : Option ByteArray

namespace Raster

def size (r : Raster) : Nat × Nat := (r.width, r.height)

/-- The bytes of a stream that holds some bytes as they are: two in front, five before every piece
of at most 65535 bytes, and four behind. -/
def storedSize (bytes : Nat) : Nat :=
  (bytes - 1) / 65535 * (65535 + 5) + (bytes % 65535 + 5) + 6

/-- The bytes of the file of a picture: what frames the pixels, and one byte before every row. -/
def fileSize (r : Raster) : Nat :=
  57 + storedSize ((r.width * r.color.pixelBytes + 1) * r.height)

def byteAt (samples : ByteArray) (i : Nat) : Nat :=
  if h : i < samples.size then samples[i].toNat else 0

/-- The sample of a channel of a pixel, taken from the samples of a picture of this width. -/
def sampleAt (width : Nat) (color : Color) (samples : ByteArray) (x y channel : Nat) : Nat :=
  let i := (y * width + x) * color.channels + channel
  if color.wide then byteAt samples (2 * i) + 256 * byteAt samples (2 * i + 1)
  else byteAt samples i

def pushSample (wide : Bool) (out : ByteArray) (n : Nat) : ByteArray :=
  if wide then (out.push (UInt8.ofNat (n % 256))).push (UInt8.ofNat (n / 256))
  else out.push (UInt8.ofNat n)

/-- The samples that a function gives for each pixel and channel. -/
def generate (width height : Nat) (color : Color) (f : Nat → Nat → Nat → Nat) : ByteArray :=
  Nat.fold height (fun y _ out =>
    Nat.fold width (fun x _ out =>
      Nat.fold color.channels (fun c _ out => pushSample color.wide out (f x y c)) out) out)
    .empty

end Raster
end Shop
