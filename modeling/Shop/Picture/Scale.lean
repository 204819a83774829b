import Shop.Number.Rounded
import Shop.Picture.Raster

/-!
# Scaling down

A picture is brought into a square box by one ratio for both sides, the smaller of those that the
sides ask for.  The ratio is a double, so sides are rounded products of doubles; each is at least
one.  Every pixel of the result is the rounded mean of the pixels whose corner lies in its window,
where windows are laid out with single precision.
-/

namespace Shop
namespace Raster

def doubleBits : Nat := 53

/-- The significant bits of a number of single precision. -/
def singleBits : Nat := 24

/-- The size of a picture brought into a box: its longer side decides the ratio. -/
def scaledSize (box width height : Nat) : Nat × Nat :=
  let ratio := Number.Rounded.ofQuotient doubleBits box (max width height)
  let side (n : Nat) := max (ratio.scale doubleBits n).round 1
  (side width, side height)

/-- Where the window of each new pixel along one side begins and ends. -/
def windows (size newSize : Nat) : Array (Nat × Nat) :=
  let step := Number.Rounded.ofQuotient singleBits size newSize
  (Array.range newSize).map fun i =>
    let start := step.scale singleBits i
    let first := min start.ceil (size - 1)
    (first, max (min (start.add singleBits step).ceil size) (first + 1))

def rowSum (sample : Nat → Nat) (first count : Nat) : Nat :=
  Nat.fold count (fun i _ sum => sum + sample (first + i)) 0

def mean (sample : Nat → Nat → Nat) (columns rows : Nat × Nat) : Nat :=
  let width := columns.2 - columns.1
  let height := rows.2 - rows.1
  let sum := Nat.fold height
    (fun j _ sum => sum + rowSum (fun x => sample x (rows.1 + j)) columns.1 width) 0
  let count := width * height
  (sum + count / 2) / count

def resize (r : Raster) (width height : Nat) : Raster :=
  let columns := windows r.width width
  let rows := windows r.height height
  { width, height, color := r.color
    samples := r.samples.map fun samples =>
      generate width height r.color fun x y channel =>
        mean (fun x y => sampleAt r.width r.color samples x y channel)
          (columns.getD x (0, 1)) (rows.getD y (0, 1)) }

/-- A picture that fits into a box: itself, or scaled down. -/
def shrinkToFit (box : Nat) (r : Raster) : Raster :=
  if r.width ≤ box ∧ r.height ≤ box then r
  else
    let (width, height) := scaledSize box r.width r.height
    r.resize width height

end Raster

/-- The renditions of a picture: two that fit into boxes, and the picture itself. -/
structure Renditions where
  thumbnail : Raster
  main : Raster
  full : Raster

def thumbnailBox : Nat := 100

def mainBox : Nat := 500

def Renditions.of (r : Raster) : Renditions :=
  ⟨r.shrinkToFit thumbnailBox, r.shrinkToFit mainBox, r⟩

end Shop
