import Shop.Picture.Jpeg.Scan
import Shop.Picture.Raster

/-!
# JPEG pictures

A JPEG picture shows its size and its colour in its heads; the samples stay coded.  By the first scan
a frame must have been described, its first plane the finest, and every table that the planes name
must be there.  Then the words of the scans are followed, because a segment among them that cannot be
read spoils the whole picture.
-/

namespace Shop
namespace Picture
namespace Jpeg

/-- Whether every table of coefficients that a plane names is there, and no plane is sampled more
finely than the first. -/
def State.isSampled (s : State) : Bool :=
  match s.components with
  | [] => false
  | first :: _ => s.components.all fun c =>
    s.quantizations.contains c.quantization && c.across ≤ first.across && c.down ≤ first.down

/-- Whether the words behind the head of the first scan leave a picture.  A frame that is refined needs
a marker behind its first scan, and as many planes as its colours have. -/
def State.isShown (s : State) (bytes : ByteArray) (pos : Nat) : Bool :=
  if s.progressive then
    s.space.planes ≤ s.components.length &&
      (!s.isRefinable || ((marker? bytes pos).isSome && survivesRefining bytes pos s))
  else
    s.components.all (fun c => (s.directCode? c).isSome && (s.alternatingCode? c).isSome) &&
      survives bytes pos s

end Jpeg

/-- Read a JPEG picture from behind its two bytes of signature. -/
def readJpeg (bytes : ByteArray) : Option Raster := do
  let (s, pos) ← Jpeg.heads? bytes 2 .start
  let (width, height) ← s.size
  if !s.isSampled || !s.isShown bytes pos then none
  return { width, height, color := ⟨if s.space = .gray then 1 else 3, false⟩, samples := none }

end Picture
end Shop
