/-!
# Picture formats

The format of a picture, guessed from its first bytes.
-/

namespace Shop
namespace Picture

/-- A format that is told apart from others. -/
inductive Format where
  | png
  | jpeg
  | gif
  | webp
  | tiff
  | dds
  | bmp
  | ico
  | hdr
  | avif
  | openExr
  | qoi
  | pnm
  | farbfeld
  deriving Repr, DecidableEq

namespace Format

def name : Format → String
  | .png => "PNG"
  | .jpeg => "JPEG"
  | .gif => "GIF"
  | .webp => "WEBP"
  | .tiff => "TIFF"
  | .dds => "DDS"
  | .bmp => "BMP"
  | .ico => "ICO"
  | .hdr => "HDR"
  | .avif => "AVIF"
  | .openExr => "OPENEXR"
  | .qoi => "QOI"
  | .pnm => "PNM"
  | .farbfeld => "FARBFELD"

/-- The bytes of an ASCII text, each wanted as it is. -/
def exactly (s : String) : List (Option Nat) := s.toList.map fun c => some c.toNat

/-- The first bytes of each format; `none` stands for any byte. -/
def signatures : List (List (Option Nat) × Format) :=
  [(some 0x89 :: exactly "PNG\r\n\x1a\n", .png),
    ([some 0xFF, some 0xD8, some 0xFF], .jpeg),
    (exactly "GIF89a", .gif),
    (exactly "GIF87a", .gif),
    (exactly "RIFF" ++ List.replicate 4 none ++ exactly "WEBP", .webp),
    (exactly "MM\x00*", .tiff),
    (exactly "II*\x00", .tiff),
    (exactly "DDS ", .dds),
    (exactly "BM", .bmp),
    ([some 0, some 0, some 1, some 0], .ico),
    (exactly "#?RADIANCE", .hdr),
    ([some 0, some 0, none, none] ++ exactly "ftypavif", .avif),
    ([some 0x76, some 0x2F, some 0x31, some 1], .openExr),
    (exactly "qoif", .qoi)] ++
  (["P1", "P2", "P3", "P4", "P5", "P6", "P7"].map fun s => (exactly s, .pnm)) ++
  [(exactly "farbfeld", .farbfeld)]

/-- Whether bytes begin with a signature. -/
def matchesFrom (bytes : ByteArray) : Nat → List (Option Nat) → Bool
  | _, [] => true
  | i, wanted :: rest =>
    if h : i < bytes.size then
      (match wanted with
        | none => true
        | some n => bytes[i].toNat == n) && matchesFrom bytes (i + 1) rest
    else false

def guess (bytes : ByteArray) : Option Format :=
  (signatures.find? fun s => matchesFrom bytes 0 s.1).map (·.2)

end Format
end Picture
end Shop
